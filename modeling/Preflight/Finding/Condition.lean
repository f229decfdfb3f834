import Preflight.Json.Decode
import Preflight.Timestamp

/-! # Conditions
What a check states about the installation: a type, whether it holds, a reason from a closed list, a message,
and whether its failure blocks the upgrade. -/
namespace Preflight

inductive ConditionStatus | true | false | unknown
  deriving DecidableEq

inductive Impact | advisory | blocking
  deriving DecidableEq

inductive Reason
  | resourceNotFound | resourceFound | requirementsMet | configurationInvalid | configurationUnmanaged
  | versionCompatible | versionIncompatible | deprecated | workloadsImpacted | noWorkloadsImpacted
  deriving DecidableEq

namespace ConditionStatus

def name : ConditionStatus → String
  | .true => "True"
  | .false => "False"
  | .unknown => "Unknown"

def all : List ConditionStatus := [.true, .false, .unknown]

def ofJson (d : Dialect) : Json → Decoded ConditionStatus := Json.asVariant d (all.map fun s => (s.name, s))

end ConditionStatus

namespace Impact

def name : Impact → String
  | .advisory => "advisory"
  | .blocking => "blocking"

def all : List Impact := [.advisory, .blocking]

def ofJson (d : Dialect) : Json → Decoded Impact := Json.asVariant d (all.map fun i => (i.name, i))

/-- A condition that says nothing about its impact is advisory. -/
instance : Inhabited Impact := ⟨.advisory⟩

/-- Advisory is the lesser impact. -/
def less (a b : Impact) : Bool := decide (a.ctorIdx < b.ctorIdx)

end Impact

namespace Reason

def name : Reason → String
  | .resourceNotFound => "ResourceNotFound"
  | .resourceFound => "ResourceFound"
  | .requirementsMet => "RequirementsMet"
  | .configurationInvalid => "ConfigurationInvalid"
  | .configurationUnmanaged => "ConfigurationUnmanaged"
  | .versionCompatible => "VersionCompatible"
  | .versionIncompatible => "VersionIncompatible"
  | .deprecated => "Deprecated"
  | .workloadsImpacted => "WorkloadsImpacted"
  | .noWorkloadsImpacted => "NoWorkloadsImpacted"

def all : List Reason :=
  [.resourceNotFound, .resourceFound, .requirementsMet, .configurationInvalid, .configurationUnmanaged,
    .versionCompatible, .versionIncompatible, .deprecated, .workloadsImpacted, .noWorkloadsImpacted]

def ofJson (d : Dialect) : Json → Decoded Reason := Json.asVariant d (all.map fun r => (r.name, r))

end Reason

structure Condition where
  type : String
  status : ConditionStatus
  reason : Reason
  message : String
  impact : Impact := .advisory
  lastTransition : Timestamp := .epoch
  deriving DecidableEq

namespace Condition

/-- The types of the conditions that the protocols state themselves. -/
def available : String := "Available"
def configured : String := "Configured"
def compatible : String := "Compatible"
def validated : String := "Validated"

def asBlocking (c : Condition) : Condition := { c with impact := .blocking }

def holds (c : Condition) : Bool := c.status = .true

def fails (c : Condition) : Bool := c.status = .false

/-- A failing condition whose impact is blocking. One that is unknown fails nothing. -/
def failsBlocking (c : Condition) : Bool := c.fails && c.impact = .blocking

def toJson (c : Condition) : Json :=
  .obj [("type", .str c.type), ("status", .str c.status.name), ("reason", .str c.reason.name),
    ("message", .str c.message), ("impact", .str c.impact.name), ("lastTransitionTime", .str c.lastTransition.text)]

end Condition

def Timestamp.ofJson : Json → Decoded Timestamp
  | .str s => match Timestamp.parse? s with
    | some t => .ok t
    | none => .error (.invalidValue "not a date and time")
  | v => .error (.invalidType v "a date and time")

def Condition.ofJson (d : Dialect) : Json → Decoded Condition :=
  Json.asRecord d "Condition" ["type", "status", "reason", "message", "impact", "lastTransitionTime"] fun s => do
    let type ← s.required "type" Json.asString
    let status ← s.required "status" (ConditionStatus.ofJson d)
    let reason ← s.required "reason" (Reason.ofJson d)
    let message ← s.required "message" Json.asString
    let impact ← s.defaulted "impact" (Impact.ofJson d) .advisory
    let lastTransition ← s.required "lastTransitionTime" Timestamp.ofJson
    return { type, status, reason, message, impact, lastTransition }

end Preflight

import Preflight.Finding.Basic
import Preflight.Version.Text

/-! # Reports
The outcomes of a run in the order of its checks, and a summary that counts them by class. `Report.add` keeps
the two in step. -/
namespace Preflight

inductive Outcome where
  | skipped (reason : String)
  | completed (result : Finding)
  | errored (message : String)
  deriving DecidableEq

namespace Outcome

def finding? : Outcome → Option Finding
  | .completed f => some f
  | _ => none

/-- The class of an outcome stands beside its contents under the name `status`. -/
def toJson : Outcome → Json
  | .skipped reason => .obj [("status", .str "skipped"), ("reason", .str reason)]
  | .completed result => .obj [("status", .str "completed"), ("result", result.toJson)]
  | .errored message => .obj [("status", .str "errored"), ("message", .str message)]

def ofTag (tag : String) (contents : Json) : Decoded Outcome :=
  match tag with
  | "skipped" => contents |> Json.asRecord .tagged "Outcome" ["reason"] fun s =>
      .skipped <$> s.required "reason" Json.asString
  | "completed" => contents |> Json.asRecord .tagged "Outcome" ["result"] fun s =>
      .completed <$> s.required "result" (Finding.ofJson .tagged)
  | "errored" => contents |> Json.asRecord .tagged "Outcome" ["message"] fun s =>
      .errored <$> s.required "message" Json.asString
  | other => .error (.unknownVariant other ["skipped", "completed", "errored"])

/-- Reads an object with a `status`, or an array that has the class in front of its contents. -/
def ofJson : Json → Decoded Outcome
  | .obj members => do
    let tag ← (Slots.members members).required "status" Json.asString
    ofTag tag (.obj members)
  | .arr (tag :: contents) => do
    let tag ← tag.asString
    ofTag tag (.arr contents)
  | .arr [] => .error (.missingField "status")
  | v => .error (.invalidType v "internally tagged enum Outcome")

end Outcome

structure CheckOutcome where
  checkId : String
  outcome : Outcome
  deriving DecidableEq

namespace CheckOutcome

def toJson (o : CheckOutcome) : Json := .obj [("checkId", .str o.checkId), ("outcome", o.outcome.toJson)]

def ofJson (d : Dialect) : Json → Decoded CheckOutcome :=
  Json.asRecord d "CheckOutcome" ["checkId", "outcome"] fun s => do
    let checkId ← s.required "checkId" Json.asString
    let outcome ← s.required "outcome" Outcome.ofJson
    return { checkId, outcome }

end CheckOutcome

/-- The numbers of outcomes by class. An outcome that blocks the upgrade also counts as failed. -/
structure Summary where
  total : Nat := 0
  passed : Nat := 0
  failed : Nat := 0
  blocking : Nat := 0
  skipped : Nat := 0
  errored : Nat := 0
  deriving DecidableEq

namespace Summary

def count (s : Summary) : Outcome → Summary
  | .skipped _ => { s with total := s.total + 1, skipped := s.skipped + 1 }
  | .errored _ => { s with total := s.total + 1, errored := s.errored + 1 }
  | .completed f =>
    let s := if f.fails then { s with failed := s.failed + 1 } else { s with passed := s.passed + 1 }
    let s := if f.failsBlocking then { s with blocking := s.blocking + 1 } else s
    { s with total := s.total + 1 }

def toJson (s : Summary) : Json :=
  .obj [("total", .int s.total), ("passed", .int s.passed), ("failed", .int s.failed),
    ("blocking", .int s.blocking), ("skipped", .int s.skipped), ("errored", .int s.errored)]

/-- Counts are numbers below 2^64. -/
def ofJson (d : Dialect) : Json → Decoded Summary :=
  Json.asRecord d "ReportSummary" ["total", "passed", "failed", "blocking", "skipped", "errored"] fun s => do
    let count := Json.asNatBelow UInt64.size
    let total ← s.required "total" count
    let passed ← s.required "passed" count
    let failed ← s.required "failed" count
    let blocking ← s.required "blocking" count
    let skipped ← s.required "skipped" count
    let errored ← s.required "errored" count
    return { total, passed, failed, blocking, skipped, errored }

end Summary

structure FormatVersion where
  major : UInt32
  minor : UInt32
  deriving DecidableEq

namespace FormatVersion

def current : FormatVersion := ⟨1, 0⟩

def text (v : FormatVersion) : String := toString v.major.toNat ++ "." ++ toString v.minor.toNat

def toJson (v : FormatVersion) : Json := .obj [("major", .int v.major.toNat), ("minor", .int v.minor.toNat)]

def ofJson (d : Dialect) : Json → Decoded FormatVersion :=
  Json.asRecord d "ReportVersion" ["major", "minor"] fun s => do
    let part := fun v => UInt32.ofNat <$> Json.asNatBelow UInt32.size v
    let major ← s.required "major" part
    let minor ← s.required "minor" part
    return { major, minor }

end FormatVersion

structure Report where
  version : FormatVersion := .current
  timestamp : String
  currentVersion : Option String := none
  targetVersion : Option String := none
  summary : Summary := {}
  outcomes : List CheckOutcome := []
  metadata : Option Json := none
  deriving BEq

namespace Report

def empty (timestamp : String) : Report := { timestamp }

def add (r : Report) (o : CheckOutcome) : Report :=
  { r with summary := r.summary.count o.outcome, outcomes := r.outcomes ++ [o] }

def ofOutcomes (timestamp : String) (outcomes : List CheckOutcome) : Report := outcomes.foldl add (empty timestamp)

/-- Records the versions between which the upgrade was checked. -/
def withVersions (r : Report) (current target : Option Version) : Report :=
  { r with currentVersion := current.map Version.text, targetVersion := target.map Version.text }

def hasBlockingFailures (r : Report) : Bool := 0 < r.summary.blocking

def hasErrors (r : Report) : Bool := 0 < r.summary.errored

/-- The first outcome of a check. -/
def outcome? (r : Report) (checkId : String) : Option CheckOutcome := r.outcomes.find? (·.checkId = checkId)

def toJson (r : Report) : Json :=
  .obj ([("version", r.version.toJson), ("timestamp", .str r.timestamp)] ++
    Json.optionalMember "currentVersion" .str r.currentVersion ++
    Json.optionalMember "targetVersion" .str r.targetVersion ++
    [("summary", r.summary.toJson), ("outcomes", .arr (r.outcomes.map CheckOutcome.toJson))] ++
    Json.optionalMember "metadata" id r.metadata)

def text (r : Report) : String := r.toJson.pretty

/-- The contents of the file that the report is saved to, if its directory exists. -/
def save? (r : Report) (directoryExists : Bool) : Option String := if directoryExists then some r.text else none

def ofJson (d : Dialect) : Json → Decoded Report :=
  Json.asRecord d "RunReport" ["version", "timestamp", "currentVersion", "targetVersion", "summary", "outcomes",
      "metadata"] fun s => do
    let version ← s.required "version" (FormatVersion.ofJson d)
    let timestamp ← s.required "timestamp" Json.asString
    let currentVersion ← s.optional "currentVersion" Json.asString
    let targetVersion ← s.optional "targetVersion" Json.asString
    let summary ← s.required "summary" (Summary.ofJson d)
    let outcomes ← s.required "outcomes" (Json.asArray (CheckOutcome.ofJson d))
    let metadata ← s.optional "metadata" Except.ok
    return { version, timestamp, currentVersion, targetVersion, summary, outcomes, metadata }

end Report

end Preflight

import Preflight.Check.Basic
import Preflight.Json.Printer

/-! # Checks of components
A component check reads the singleton that holds the management states, reads the state of one component in it
and, if that is a state that the check is about, hands over to a policy. The policy may ask for the namespace of
the applications, which a second singleton holds. Each thing that is missing on the way ends the evaluation with
one condition. -/
namespace Preflight

inductive ManagementState | managed | unmanaged | removed
  deriving DecidableEq

namespace ManagementState

def name : ManagementState → String
  | .managed => "Managed"
  | .unmanaged => "Unmanaged"
  | .removed => "Removed"

def all : List ManagementState := [.managed, .unmanaged, .removed]

def ofName? (name : String) : Option ManagementState := all.find? (·.name = name)

def ofJson (d : Dialect) : Json → Decoded ManagementState := Json.asVariant d (all.map fun s => (s.name, s))

end ManagementState

structure ComponentView where
  component : String
  singleton : Object
  state : ManagementState
  applicationsNamespace : Option String
  upgrade : Upgrade

structure ComponentCheck where
  about : CheckMeta
  component : String
  singleton : ResourceType := .dataScienceCluster
  statePath : FieldPath
  /-- The states that the check is about; all of them if there is no list. -/
  requiredStates : Option (List ManagementState) := none
  needsNamespace : Bool := false
  gate : Gate := Gate.always
  /-- Continues a finding. -/
  policy : ComponentView → Finding → Program Finding

namespace ComponentCheck

/-- A check of a component whose state is where the states of components are unless said otherwise. -/
def forComponent (about : CheckMeta) (component : String)
    (policy : ComponentView → Finding → Program Finding) : Except FieldPathError ComponentCheck := do
  let statePath ← FieldPath.join ["spec", "components", component, "managementState"]
  return { about, component, statePath, policy }

def namespacePath : FieldPath := { segments := ["spec", "applicationsNamespace"], valid := by decide }

/-- The state under the path of the check. A component without a state counts as removed. -/
def readState (c : ComponentCheck) (singleton : Object) : Except Fault ManagementState :=
  match singleton.get? c.statePath with
  | none => .ok .removed
  | some (.str name) => match ManagementState.ofName? name with
    | some state => .ok state
    | none => .error (.managementState c.component name)
  | some value => .error (.managementState c.component value.compact)

def isAbout (c : ComponentCheck) (state : ManagementState) : Bool :=
  match c.requiredStates with
  | some states => states.contains state
  | none => true

/-- The namespace of the applications, which is never empty. -/
def applicationsNamespace? (initialization : Object) : Option String :=
  match initialization.get? namespacePath with
  | some (.str ns) => if ns = "" then none else some ns
  | _ => none

def noActionRequired (component : String) (state : ManagementState) : Condition :=
  { type := Condition.configured, status := .true, reason := .requirementsMet,
    message := component ++ " is " ++ state.name ++ "; no action required" }

def namespaceUnset : Condition :=
  { type := Condition.configured, status := .false, reason := .configurationInvalid,
    message := ResourceType.initialization.kind ++ " has no " ++ namespacePath.text ++ " set" }

/-- The last part: finds the namespace, if it is asked for, and hands over to the policy. -/
def conclude (c : ComponentCheck) (u : Upgrade) (singleton : Object) (state : ManagementState) (finding : Finding) :
    Program Finding :=
  let view (ns : Option String) : ComponentView := ⟨c.component, singleton, state, ns, u⟩
  if c.needsNamespace then do
    match ← Program.singleton .initialization with
    | none => return finding.state (.resourceNotFound .initialization)
    | some initialization => match applicationsNamespace? initialization with
      | none => return finding.state namespaceUnset
      | some ns => c.policy (view ns) (finding.annotate Annotation.applicationsNamespace ns)
  else c.policy (view none) finding

/-- The middle part: what follows once the singleton is found. -/
def inspect (c : ComponentCheck) (u : Upgrade) (singleton : Object) (finding : Finding) : Program Finding := do
  let state ← Program.ofExcept (c.readState singleton)
  let finding := finding.annotate Annotation.managementState state.name
  if c.isAbout state then c.conclude u singleton state finding
  else return finding.state (noActionRequired c.component state)

def evaluate (c : ComponentCheck) (u : Upgrade) : Program Finding := do
  let finding := c.about.stampedFinding u
  match ← Program.singleton c.singleton with
  | none => return finding.state (.resourceNotFound c.singleton)
  | some singleton => c.inspect u singleton finding

def toCheck (c : ComponentCheck) : Check := ⟨c.about, fun u => .ok (c.gate u), c.evaluate⟩

end ComponentCheck

end Preflight

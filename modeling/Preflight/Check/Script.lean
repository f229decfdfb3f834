import Preflight.Check.Component
import Preflight.Check.Operator
import Preflight.Check.Workload

/-! # Scripted policies
Policies, filters and conditions that are written down as data. A script is a list of actions on the finding,
taken in order; a fault ends it. What a script can describe of its surroundings is its scene. -/
namespace Preflight

/-- What surrounds a script: the type of the objects that it affects unless it names another, and the entries
that describe what its protocol hands over. -/
structure Scene where
  type : TypeMeta := ⟨"", ""⟩
  description : List (String × String)

inductive Action where
  | state (condition : Condition)
  | annotate (key value : String)
  | affect (type : Option ResourceType) (objects : List ObjectRef)
  | describe
  | fail (text : String)
  | cancel
  | wait (milliseconds : Nat)
  /-- Lists the objects of a type and annotates how many there are. -/
  | read (type : ResourceType)

namespace Action

def perform (scene : Scene) (finding : Finding) : Action → Program Finding
  | .state condition => .done (finding.state condition)
  | .annotate key value => .done (finding.annotate key value)
  | .affect type objects => .done (finding.setAffected ((type.map ResourceType.typeMeta).getD scene.type) objects)
  | .describe => .done (scene.description.foldl (fun f e => f.annotate e.1 e.2) finding)
  | .fail text => .fail (.policy text)
  | .cancel => .cancel (.done finding)
  | .wait milliseconds => .wait milliseconds (.done finding)
  | .read type => do
    let objects ← Program.listing "policy read" type {}
    return finding.annotate "read.count" (toString objects.length)

end Action

namespace Script

def run (scene : Scene) : List Action → Finding → Program Finding
  | [], finding => .done finding
  | action :: actions, finding => do run scene actions (← action.perform scene finding)

def componentPolicy (script : List Action) (view : ComponentView) : Finding → Program Finding :=
  run { description := [("seen.component", view.component), ("seen.state", view.state.name),
    ("seen.namespace", view.applicationsNamespace.getD "<none>"), ("seen.singleton", Item.name view.singleton),
    ("seen.target", view.upgrade.targetLabel)] } script

/-- Namespace and name of an item, with a hyphen for no namespace. -/
def itemText {α : Type} [Item α] (item : α) : String :=
  (Item.namespaceName item).getD "-" ++ "/" ++ Item.name item

def workloadPolicy {α : Type} [Item α] (script : List Action) (view : WorkloadView α) :
    Finding → Program Finding :=
  run { type := view.resource.typeMeta
        description := [("seen.items", ",".intercalate (view.items.map itemText)),
          ("seen.resource", view.resource.text), ("seen.target", view.upgrade.targetLabel)] } script

/-- A check that is nothing but a script. -/
def check (about : CheckMeta) (applies : Except Fault Bool) (script : List Action) : Check where
  about := about
  applies _ := applies
  evaluate u := run { description := [("seen.target", u.targetLabel)] } script about.newFinding

end Script

/-- One rule of a written filter. A rule on an entry with no value asks for its absence. -/
inductive ItemRule where
  | nameBegins (start : String)
  | labelled (key : String) (value : Option String)
  | annotated (key : String) (value : Option String)
  | failOn (name text : String)
  | cancelOn (name : String)

namespace ItemRule

def accepts {α : Type} [Item α] (item : α) : ItemRule → Except Fault Bool
  | .nameBegins start => .ok (start.toList.isPrefixOf (Item.name item).toList)
  | .labelled key value => .ok (Item.labelOf item key = value)
  | .annotated key value => .ok (Item.annotationOf item key = value)
  | .failOn name text => if Item.name item = name then .error (.policy text) else .ok true
  | .cancelOn name => if Item.name item = name then .error .cancelled else .ok true

/-- The first rule that drops an item or fails on it decides. -/
def acceptAll {α : Type} [Item α] : List ItemRule → α → Except Fault Bool
  | [], _ => .ok true
  | rule :: rules, item => do if ← rule.accepts item then acceptAll rules item else return false

end ItemRule

/-- A written condition of an operator check. -/
inductive ConditionRule where
  | conditions (found missing : Condition)
  | fail (text : String)
  | cancel

namespace ConditionRule

/-- Puts a value in place of every occurrence of a pattern, from left to right; the first `skip` characters
belong to the occurrence before. -/
def substitute (pattern value : List Char) : (skip : Nat) → List Char → List Char
  | _, [] => []
  | skip + 1, _ :: s => substitute pattern value skip s
  | 0, c :: s =>
    if pattern.isPrefixOf (c :: s) then value ++ substitute pattern value (pattern.length - 1) s
    else c :: substitute pattern value 0 s

def build (rule : ConditionRule) (found : Bool) (version : String) : Except Fault Condition :=
  match rule with
  | .conditions present missing =>
    let condition := if found then present else missing
    let message := substitute "\x7bversion\x7d".toList version.toList 0 condition.message.toList
    .ok { condition with message := String.ofList message }
  | .fail text => .error (.policy text)
  | .cancel => .error .cancelled

end ConditionRule

end Preflight

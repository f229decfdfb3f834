import Preflight.Check.Basic

/-! # Checks of workloads
A workload check lists the objects of a type, keeps those that its filter accepts and hands them to a policy. If
the policy names no affected objects, all that were kept are affected. -/
namespace Preflight

structure WorkloadView (α : Type) where
  items : List α
  resource : ResourceType
  upgrade : Upgrade

structure WorkloadCheck (α : Type) where
  about : CheckMeta
  resource : ResourceType
  options : ListOptions := {}
  gate : Gate := Gate.always
  filter : α → Except Fault Bool := fun _ => .ok true
  /-- Continues a finding. -/
  policy : WorkloadView α → Finding → Program Finding

namespace WorkloadCheck

variable {α : Type}

/-- The items that a filter accepts, in order, up to the first item on which it fails. -/
def keep (filter : α → Except Fault Bool) : List α → Except Fault (List α)
  | [] => .ok []
  | item :: items => do
    let accepted ← filter item
    let kept ← keep filter items
    return if accepted then item :: kept else kept

/-- The affected objects of a finding that has none set and is about some items. -/
def affect [Item α] (type : TypeMeta) (items : List α) (finding : Finding) : Finding :=
  if finding.affected.isNone ∧ items ≠ [] then finding.setAffected type (items.map Item.ref) else finding

def evaluate [Item α] (c : WorkloadCheck α) (u : Upgrade) : Program Finding := do
  let objects ← Program.listing ("listing " ++ c.resource.text) c.resource c.options
  let items ← Program.ofExcept
    ((keep c.filter (objects.map (Item.ofObject c.resource))).mapError (.filter c.resource.text))
  let finding := (c.about.stampedFinding u).annotate Annotation.workloadCount (toString items.length)
  let finding ← c.policy ⟨items, c.resource, u⟩ finding
  return affect c.resource.typeMeta items finding

def toCheck [Item α] (c : WorkloadCheck α) : Check := ⟨c.about, fun u => .ok (c.gate u), c.evaluate⟩

end WorkloadCheck

end Preflight

import Preflight.Check.Basic

/-! # Catalogs
The checks of a run in the order in which they were registered, no two of which have one id. -/
namespace Preflight

structure Catalog where
  checks : List Check
  distinct : (checks.map (·.about.id)).Nodup

namespace Catalog

def empty : Catalog := ⟨[], List.nodup_nil⟩

def ids (c : Catalog) : List String := c.checks.map (·.about.id)

theorem distinct_append (c : Catalog) {check : Check} (h : check.about.id ∉ c.ids) :
    ((c.checks ++ [check]).map (·.about.id)).Nodup := by
  rw [List.map_append, List.nodup_append]
  refine ⟨c.distinct, by simp, fun a ha b hb hab => h ?_⟩
  simp only [List.map_cons, List.map_nil, List.mem_singleton] at hb
  exact hb ▸ hab ▸ ha

/-- Adds a check behind the others, unless one of them has its id. -/
def register (c : Catalog) (check : Check) : Except Fault Catalog :=
  if h : check.about.id ∈ c.ids then .error (.duplicate check.about.id)
  else .ok ⟨c.checks ++ [check], c.distinct_append h⟩

def find? (c : Catalog) (id : String) : Option Check := c.checks.find? (·.about.id = id)

def ofGroup (c : Catalog) (group : CheckGroup) : List Check := c.checks.filter (·.about.group = group)

def size (c : Catalog) : Nat := c.checks.length

def text (c : Catalog) : String :=
  "CheckRegistry \x7b checks: [" ++ ", ".intercalate (c.ids.map Text.quote) ++ "] \x7d"

end Catalog

end Preflight

import Preflight.Check.Catalog

/-! # Registries
A registry is a catalog while it is filled. Beside the checks it keeps a set of their ids, by which it tells whether
an id is taken. -/
namespace Preflight

structure Registry extends Catalog where
  /-- The ids that are taken. -/
  taken : Dictionary Unit
  taken_iff (id : String) : (taken.find? id).isSome = true ↔ id ∈ checks.map (·.about.id)

namespace Registry

def empty : Registry := { Catalog.empty with taken := .empty, taken_iff := fun id => by simp [Catalog.empty] }

/-- Takes the id of a check, and then adds the check behind the others unless its id was taken before. -/
def register (r : Registry) (check : Check) : Except Fault Unit × Registry :=
  let id := check.about.id
  let taken := r.taken.insert id ()
  if h : (r.taken.find? id).isSome = true then
    (.error (.duplicate id), { r with
      taken
      taken_iff := fun id' => by
        rw [Dictionary.isSome_find?_insert, ← r.taken_iff]
        exact or_iff_left_of_imp fun heq => heq ▸ h })
  else
    (.ok (), {
      checks := r.checks ++ [check]
      distinct := r.distinct_append fun hmem => h ((r.taken_iff id).2 hmem)
      taken
      taken_iff := fun id' => by
        rw [Dictionary.isSome_find?_insert, r.taken_iff, List.map_append, List.mem_append]
        exact or_congr_right List.mem_singleton.symm })

/-- Registers checks one after the other, whether or not some of them are refused. -/
def registerAll (r : Registry) (checks : List Check) : Registry :=
  checks.foldl (fun r check => (r.register check).2) r

end Registry

end Preflight

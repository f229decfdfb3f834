import Preflight.Cluster.Object
import Preflight.Json.Decode

/-! # Fields of values
A path and a record find a field in the same place as long as it has a name and no index: in an object, under that
name. They part where it is absent or `null`. -/
namespace Preflight

namespace FieldPath

theorem walk?_append (p q : List String) (v : Json) : walk? (p ++ q) v = walk? p v >>= walk? q := by
  induction p generalizing v with
  | nil => rfl
  | cons s p ih =>
    simp only [List.cons_append, walk?]
    cases step? s v with
    | none => rfl
    | some w => exact ih w

/-- A segment that is no index leads into objects only. -/
theorem step?_of_name {name : String} (h : index? name = none) (v : Json) : step? name v = v.member? name := by
  cases v with
  | arr items =>
    simp only [step?, h]
    rfl
  | obj members => rfl
  | _ => rfl

theorem walk?_cons_of_name {name : String} (h : index? name = none) (p : List String) (v : Json) :
    walk? (name :: p) v = v.member? name >>= walk? p := by rw [walk?, step?_of_name h]

theorem walk?_of_member? {name : String} (h : index? name = none) {v w : Json} (hv : v.member? name = some w)
    (p : List String) : walk? (name :: p) v = walk? p w := by
  rw [walk?_cons_of_name h, hv]
  rfl

theorem exists_member?_of_walk? {name : String} (h : index? name = none) {p : List String} {v w : Json}
    (hwalk : walk? (name :: p) v = some w) : ∃ x, v.member? name = some x ∧ walk? p x = some w := by
  rw [walk?_cons_of_name h] at hwalk
  exact Option.bind_eq_some_iff.1 hwalk

theorem walk?_singleton {name : String} (h : index? name = none) (v : Json) : walk? [name] v = v.member? name := by
  rw [walk?_cons_of_name h]
  cases v.member? name <;> rfl

theorem walk?_of_lookup {p : FieldPath} {v w : Json} (h : p.lookup v = some w) : walk? p.segments v = some w := by
  unfold lookup at h
  split at h
  · cases h
  · exact h

theorem lookup_of_walk? {p : FieldPath} {v w : Json} (h : walk? p.segments v = some w) (hw : w ≠ .null) :
    p.lookup v = some w := by
  unfold lookup
  split
  · next hnull => exact absurd (Option.some.inj (h.symm.trans hnull)) hw
  · exact h

end FieldPath

theorem Json.eq_obj_of_member? {key : String} {v w : Json} (h : v.member? key = some w) :
    ∃ members, v = .obj members ∧ Entries.find? key members = some w := by
  cases v with
  | obj members => exact ⟨members, rfl, h⟩
  | _ => cases h

/-- A record with one field reads it from where its name leads. -/
theorem Json.asRecord_of_member? {α : Type} {key : String} {v w : Json} (h : v.member? key = some w) (d : Dialect)
    (record : String) (fields : List String) (value : Json → Decoded α) (default : α) :
    v.asRecord d record fields (fun s => s.defaulted key value default) = value w := by
  obtain ⟨members, rfl, hfind⟩ := eq_obj_of_member? h
  simp only [asRecord, Slots.defaulted, Slots.find, hfind]

end Preflight

import Preflight.Json.Decode

/-! # What is written is read back
Laws for the readers of values and of the fields of records: each gives back what its writer was given. A field that
was left out is read back from its default, so what a writer leaves out has to be what the reader takes it for. -/
namespace Preflight

theorem exists_of_bind_eq_ok {ε α β : Type} {r : Except ε α} {f : α → Except ε β} {b : β} (h : r >>= f = .ok b) :
    ∃ a, r = .ok a ∧ f a = .ok b := by
  cases r with
  | error e => cases h
  | ok a => exact ⟨a, rfl, h⟩

theorem eq_ok_of_mapError {ε ε' α : Type} {r : Except ε α} {f : ε → ε'} {a : α} (h : r.mapError f = .ok a) :
    r = .ok a := by
  cases r with
  | error e => cases h
  | ok b => exact congrArg Except.ok (Except.ok.inj h)

namespace Json

variable {α : Type}

theorem find?_optionalMember (k key : String) (write : α → Json) (o : Option α) :
    Entries.find? k (optionalMember key write o) = if k = key then o.map write else none := by
  cases o with
  | none => simp [optionalMember, Entries.find?]
  | some a => simp [optionalMember, Entries.find?]

theorem find?_unless (k key : String) (v : Json) (b : Bool) :
    Entries.find? k (if b = true then [] else [(key, v)]) =
      if k = key then (if b = true then none else some v) else none := by
  cases b with
  | true => simp [Entries.find?]
  | false => simp [Entries.find?]

def ReadsBack (value : Json → Decoded α) (write : α → Json) : Prop := ∀ a, value (write a) = .ok a

theorem readsBack_asString : ReadsBack asString .str := fun _ => rfl

theorem mapM_map_of_readsBack {value : Json → Decoded α} {write : α → Json} (h : ReadsBack value write)
    (as : List α) : (as.map write).mapM value = .ok as := by
  induction as with
  | nil => rfl
  | cons a as ih =>
    rw [List.map_cons, List.mapM_cons, h a, ih]
    rfl

theorem ReadsBack.asArray {value : Json → Decoded α} {write : α → Json} (h : ReadsBack value write) :
    ReadsBack (asArray value) fun as => .arr (as.map write) := mapM_map_of_readsBack h

theorem ReadsBack.asDictionary {value : Json → Decoded α} {write : α → Json} (h : ReadsBack value write) :
    ReadsBack (asDictionary value) (ofDictionary write) := by
  intro d
  have hmembers : (d.entries.map fun e => (e.1, write e.2)).mapM
      (fun m => do let v ← value m.2; return (m.1, v)) = .ok d.entries := by
    induction d.entries with
    | nil => rfl
    | cons e es ih =>
      rw [List.map_cons, List.mapM_cons, h e.2, ih]
      rfl
  simp only [ofDictionary, Json.asDictionary, hmembers]
  exact congrArg Except.ok d.ofList_entries

theorem asNatBelow_of_lt {bound n : Nat} (h : n < bound) : asNatBelow bound (.int n) = .ok n := by
  have hrange : (0 : Int) ≤ n ∧ (n : Int) < bound := ⟨Int.natCast_nonneg n, Int.ofNat_lt.2 h⟩
  rw [asNatBelow, if_pos hrange, Int.toNat_natCast]

end Json

namespace Slots

variable {α : Type} {ms : List (String × Json)} {field : String} {value : Json → Decoded α} {write : α → Json}

theorem required_members (ms : List (String × Json)) (field : String) (value : Json → Decoded α) :
    (members ms).required field value = match Entries.find? field ms with
      | some v => value v
      | none => .error (.missingField field) := by
  simp only [required, find]
  cases Entries.find? field ms <;> rfl

theorem defaulted_members (ms : List (String × Json)) (field : String) (value : Json → Decoded α) (default : α) :
    (members ms).defaulted field value default = match Entries.find? field ms with
      | some v => value v
      | none => .ok default := by
  simp only [defaulted, find]
  cases Entries.find? field ms <;> rfl

/-- A field that is read is not there, or it is there and decoded. -/
theorem cases_of_defaulted {default a : α} (h : (members ms).defaulted field value default = .ok a) :
    Entries.find? field ms = none ∧ a = default ∨ ∃ v, Entries.find? field ms = some v ∧ value v = .ok a := by
  rw [defaulted_members] at h
  cases hfind : Entries.find? field ms with
  | none =>
    rw [hfind] at h
    exact .inl ⟨rfl, (Except.ok.inj h).symm⟩
  | some v =>
    rw [hfind] at h
    exact .inr ⟨v, rfl, h⟩

theorem defaulted_dictionary {dict : Dictionary α}
    (h : Entries.find? field ms = if dict.isEmpty then none else some (Json.ofDictionary write dict))
    (hv : Json.ReadsBack value write) :
    (members ms).defaulted field (Json.asDictionary value) Dictionary.empty = .ok dict := by
  rw [defaulted_members, h]
  cases hempty : dict.isEmpty with
  | true => exact congrArg Except.ok (Dictionary.eq_empty_of_isEmpty hempty).symm
  | false => exact hv.asDictionary dict

/-- An optional value that is left out when there is none, and is not written as `null`. -/
theorem defaulted_optional {o : Option α} (h : Entries.find? field ms = o.map write)
    (hv : Json.ReadsBack value write) (hnull : ∀ a, write a ≠ .null) :
    (members ms).defaulted field (Json.asOption value) none = .ok o := by
  rw [defaulted_members, h]
  cases o with
  | none => rfl
  | some a =>
    change Json.asOption value (write a) = .ok (some a)
    unfold Json.asOption
    split
    · next heq => exact absurd heq (hnull a)
    · rw [hv a]
      rfl

end Slots

end Preflight

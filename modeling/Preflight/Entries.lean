/-! # Entries in key order
Lists of named entries kept in the order of their keys, and `Dictionary`, the type of those lists whose keys
ascend. Looking a key up after writing one needs no ascending keys: the last value written to a key is found,
and every other key keeps its own. -/
namespace Preflight.Entries

variable {α β : Type}

def find? (k : String) : List (String × α) → Option α
  | [] => none
  | (k', v) :: es => if k = k' then some v else find? k es

/-- Writes a key: in place when it is there, before the first greater key otherwise. -/
def insert (k : String) (v : α) : List (String × α) → List (String × α)
  | [] => [(k, v)]
  | (k', v') :: es =>
    if k = k' then (k, v) :: es
    else if k < k' then (k, v) :: (k', v') :: es
    else (k', v') :: insert k v es

def Ascending (es : List (String × α)) : Prop := es.Pairwise (·.1 < ·.1)

/-- Writes entries one after the other, so that of two with one key the later wins. -/
def ofList (es : List (String × α)) : List (String × α) := es.foldl (fun acc e => insert e.1 e.2 acc) []

theorem find?_insert (k k' : String) (v : α) (es : List (String × α)) :
    find? k' (insert k v es) = if k' = k then some v else find? k' es := by
  induction es with
  | nil => simp [insert, find?]
  | cons e es ih =>
    obtain ⟨q, w⟩ := e
    unfold insert
    split
    · next h => subst h; simp only [find?]; split <;> rfl
    · next h =>
      split
      · simp [find?]
      · simp only [find?, ih]
        split
        · next hq => subst hq; simp [Ne.symm h]
        · rfl

theorem mem_insert {k : String} {v : α} {e : String × α} {es : List (String × α)}
    (h : e ∈ insert k v es) : e = (k, v) ∨ e ∈ es := by
  induction es with
  | nil => simpa [insert] using h
  | cons f es ih =>
    obtain ⟨q, w⟩ := f
    unfold insert at h
    split at h
    · grind
    · split at h <;> grind

theorem Ascending.insert {k : String} {v : α} {es : List (String × α)} (h : Ascending es) :
    Ascending (insert k v es) := by
  induction es with
  | nil => simp [Entries.insert, Ascending]
  | cons f es ih =>
    obtain ⟨q, w⟩ := f
    simp only [Ascending, List.pairwise_cons] at h
    unfold Entries.insert
    split
    · next hk => subst hk; exact List.pairwise_cons.2 h
    · next hk =>
      split
      · next hlt =>
        refine List.pairwise_cons.2 ⟨fun e he => ?_, List.pairwise_cons.2 h⟩
        rcases List.mem_cons.1 he with rfl | he
        · exact hlt
        · exact String.lt_trans hlt (h.1 e he)
      · next hlt =>
        refine List.pairwise_cons.2 ⟨fun e he => ?_, ih h.2⟩
        rcases mem_insert he with rfl | he
        · exact Classical.byContradiction fun hge =>
            hk (String.le_antisymm (String.not_lt.1 hge) (String.not_lt.1 hlt))
        · exact h.1 e he

theorem Ascending.foldl_insert {es acc : List (String × α)} (h : Ascending acc) :
    Ascending (es.foldl (fun acc e => Entries.insert e.1 e.2 acc) acc) := by
  induction es generalizing acc with
  | nil => exact h
  | cons e es ih => exact ih h.insert

theorem ascending_ofList (es : List (String × α)) : Ascending (ofList es) :=
  Ascending.foldl_insert List.Pairwise.nil

/-- The first entry with the key is found. -/
theorem find?_eq_some_iff {k : String} {v : α} {es : List (String × α)} :
    find? k es = some v ↔ ∃ before after, es = before ++ (k, v) :: after ∧ ∀ e ∈ before, e.1 ≠ k := by
  constructor
  · intro h
    induction es with
    | nil => cases h
    | cons e es ih =>
      obtain ⟨k', v'⟩ := e
      unfold find? at h
      split at h
      · next hk =>
        cases h
        subst hk
        exact ⟨[], es, rfl, fun _ he => absurd he List.not_mem_nil⟩
      · next hk =>
        obtain ⟨before, after, rfl, hbefore⟩ := ih h
        exact ⟨(k', v') :: before, after, rfl, List.forall_mem_cons.2 ⟨Ne.symm hk, hbefore⟩⟩
  · rintro ⟨before, after, rfl, hbefore⟩
    induction before with
    | nil => exact if_pos rfl
    | cons e before ih =>
      obtain ⟨hne, hbefore⟩ := List.forall_mem_cons.1 hbefore
      exact (if_neg (Ne.symm hne)).trans (ih hbefore)

theorem mem_of_find? {k : String} {v : α} {es : List (String × α)} (h : find? k es = some v) : (k, v) ∈ es := by
  obtain ⟨before, after, rfl, -⟩ := find?_eq_some_iff.1 h
  exact List.mem_append_right _ List.mem_cons_self

theorem mem_of_mem_foldl_insert {e : String × α} {acc es : List (String × α)}
    (h : e ∈ es.foldl (fun acc e => insert e.1 e.2 acc) acc) : e ∈ acc ∨ e ∈ es := by
  induction es generalizing acc with
  | nil => exact .inl h
  | cons e' es ih =>
    rcases ih h with hacc | hes
    · rcases mem_insert hacc with rfl | hacc
      · exact .inr List.mem_cons_self
      · exact .inl hacc
    · exact .inr (List.mem_cons_of_mem _ hes)

theorem mem_of_mem_ofList {e : String × α} {es : List (String × α)} (h : e ∈ ofList es) : e ∈ es :=
  (mem_of_mem_foldl_insert h).resolve_left List.not_mem_nil

theorem find?_append (k : String) (es fs : List (String × α)) :
    find? k (es ++ fs) = (find? k es).or (find? k fs) := by
  induction es with
  | nil => rfl
  | cons e es ih =>
    obtain ⟨k', v⟩ := e
    simp only [List.cons_append, find?, ih]
    split <;> rfl

/-- A key behind all others is written at the end. -/
theorem insert_of_lt {k : String} {es : List (String × α)} (h : ∀ e ∈ es, e.1 < k) (v : α) :
    insert k v es = es ++ [(k, v)] := by
  induction es with
  | nil => rfl
  | cons e es ih =>
    obtain ⟨k', v'⟩ := e
    have hlt : k' < k := h _ List.mem_cons_self
    have hne : k ≠ k' := fun heq => String.lt_irrefl k' (heq ▸ hlt)
    have hge : ¬ k < k' := fun hgt => String.lt_irrefl k (String.lt_trans hgt hlt)
    rw [insert, if_neg hne, if_neg hge, ih fun e he => h e (List.mem_cons_of_mem _ he), List.cons_append]

theorem foldl_insert_of_ascending {acc es : List (String × α)} (h : Ascending (acc ++ es)) :
    es.foldl (fun acc e => insert e.1 e.2 acc) acc = acc ++ es := by
  induction es generalizing acc with
  | nil => rw [List.append_nil]; rfl
  | cons e es ih =>
    have hlast : ∀ e' ∈ acc, e'.1 < e.1 := fun e' he' => (List.pairwise_append.1 h).2.2 e' he' e List.mem_cons_self
    rw [List.foldl_cons, insert_of_lt hlast, ih (by simpa using h)]
    simp

theorem ofList_of_ascending {es : List (String × α)} (h : Ascending es) : ofList es = es := by
  rw [ofList, foldl_insert_of_ascending (by rwa [List.nil_append]), List.nil_append]

theorem ofList_append_singleton (writes : List (String × α)) (w : String × α) :
    ofList (writes ++ [w]) = insert w.1 w.2 (ofList writes) := by
  rw [ofList, List.foldl_append]
  rfl

/-- Writing the value that already stands under a key changes nothing. -/
theorem insert_eq_self {k : String} {v : α} {es : List (String × α)} (h : Ascending es)
    (hfind : find? k es = some v) : insert k v es = es := by
  induction es with
  | nil => cases hfind
  | cons e es ih =>
    obtain ⟨k', v'⟩ := e
    obtain ⟨hfirst, hrest⟩ := List.pairwise_cons.1 h
    unfold find? at hfind
    unfold insert
    split at hfind
    · next heq =>
      cases hfind
      rw [if_pos heq, heq]
    · next hne =>
      -- The key stands further behind, so it is greater than the first one.
      have hlt : k' < k := hfirst _ (mem_of_find? hfind)
      have hge : ¬ k < k' := fun hgt => String.lt_irrefl k (String.lt_trans hgt hlt)
      rw [if_neg hne, if_neg hge, ih hrest hfind]

/-- Writing an entry and changing all values goes in either order. -/
theorem insert_map {β : Type} (f : α → β) (key : String) (a : α) (es : List (String × α)) :
    insert key (f a) (es.map fun e => (e.1, f e.2)) = (insert key a es).map fun e => (e.1, f e.2) := by
  induction es with
  | nil => rfl
  | cons e es ih =>
    simp only [List.map_cons, insert]
    split
    · rfl
    · split
      · rfl
      · rw [ih, List.map_cons]

theorem insert_perm {k : String} {es : List (String × α)} (h : ∀ e ∈ es, e.1 ≠ k) (v : α) :
    (insert k v es).Perm ((k, v) :: es) := by
  induction es with
  | nil => exact List.Perm.refl _
  | cons e es ih =>
    obtain ⟨hne, hes⟩ := List.forall_mem_cons.1 h
    rw [insert, if_neg (Ne.symm hne)]
    split
    · exact List.Perm.refl _
    · exact ((ih hes).cons e).trans (List.Perm.swap _ _ _)

theorem find?_eq_none_of_ne {k : String} {es : List (String × α)} (h : ∀ e ∈ es, e.1 ≠ k) : find? k es = none := by
  induction es with
  | nil => rfl
  | cons e es ih =>
    obtain ⟨hne, hes⟩ := List.forall_mem_cons.1 h
    rw [find?, if_neg (Ne.symm hne), ih hes]

/-- No two entries have one key. -/
def Apart (es : List (String × α)) : Prop := es.Pairwise (·.1 ≠ ·.1)

theorem Ascending.apart {es : List (String × α)} (h : Ascending es) : Apart es :=
  List.Pairwise.imp (fun hlt => String.ne_of_lt hlt) h

theorem Apart.perm {es es' : List (String × α)} (h : Apart es) (hperm : es.Perm es') : Apart es' :=
  (hperm.pairwise_iff Ne.symm).1 h

theorem foldl_insert_perm {acc es : List (String × α)} (h : Apart (acc ++ es)) :
    (es.foldl (fun acc e => insert e.1 e.2 acc) acc).Perm (acc ++ es) := by
  induction es generalizing acc with
  | nil =>
    rw [List.append_nil]
    exact List.Perm.refl _
  | cons e es ih =>
    have hnew : ∀ e' ∈ acc, e'.1 ≠ e.1 := fun e' he' => (List.pairwise_append.1 h).2.2 e' he' e List.mem_cons_self
    have hinsert : (insert e.1 e.2 acc ++ es).Perm (acc ++ e :: es) :=
      ((insert_perm hnew e.2).append_right es).trans List.perm_middle.symm
    exact (ih (h.perm hinsert.symm)).trans hinsert

/-- Entries that are written in any order come to stand in the order of their keys. -/
theorem ofList_of_perm {es es' : List (String × α)} (hperm : es.Perm es') (h : Ascending es') :
    ofList es = es' := by
  have hapart : Apart ([] ++ es) := h.apart.perm hperm.symm
  refine List.Perm.eq_of_pairwise ?_ (ascending_ofList es) h ((foldl_insert_perm hapart).trans hperm)
  intro a b _ _ hab hba
  exact absurd (String.lt_trans hab hba) (String.lt_irrefl _)

end Preflight.Entries

namespace Preflight

/-- A map from texts to values, written down in ascending order of its keys. Two dictionaries with the same
entries are equal. -/
structure Dictionary (α : Type) where
  entries : List (String × α)
  ascending : Entries.Ascending entries
  deriving DecidableEq

namespace Dictionary

variable {α : Type}

def empty : Dictionary α := ⟨[], List.Pairwise.nil⟩

instance : Inhabited (Dictionary α) := ⟨empty⟩

def find? (d : Dictionary α) (k : String) : Option α := Entries.find? k d.entries

def insert (d : Dictionary α) (k : String) (v : α) : Dictionary α :=
  ⟨Entries.insert k v d.entries, d.ascending.insert⟩

def isEmpty (d : Dictionary α) : Bool := d.entries.isEmpty

def size (d : Dictionary α) : Nat := d.entries.length

def ofList (es : List (String × α)) : Dictionary α := ⟨Entries.ofList es, Entries.ascending_ofList es⟩

@[simp] theorem find?_empty (k : String) : (empty : Dictionary α).find? k = none := rfl

@[simp] theorem find?_insert (d : Dictionary α) (k k' : String) (v : α) :
    (d.insert k v).find? k' = if k' = k then some v else d.find? k' :=
  Entries.find?_insert k k' v d.entries

theorem isSome_find?_insert (d : Dictionary α) (k k' : String) (v : α) :
    ((d.insert k v).find? k').isSome = true ↔ (d.find? k').isSome = true ∨ k' = k := by
  rw [find?_insert]
  split <;> simp [*]

theorem ofList_entries (d : Dictionary α) : ofList d.entries = d := by
  obtain ⟨entries, ascending⟩ := d
  simp only [ofList, Entries.ofList_of_ascending ascending]

theorem eq_empty_of_isEmpty {d : Dictionary α} (h : d.isEmpty = true) : d = empty := by
  obtain ⟨entries, ascending⟩ := d
  cases entries with
  | nil => rfl
  | cons e es => cases h

theorem insert_eq_self {d : Dictionary Unit} {k : String} (h : (d.find? k).isSome = true) : d.insert k () = d := by
  obtain ⟨v, hfind⟩ := Option.isSome_iff_exists.1 h
  simp only [insert, Entries.insert_eq_self d.ascending hfind]

theorem ofList_append_singleton (writes : List (String × α)) (w : String × α) :
    ofList (writes ++ [w]) = (ofList writes).insert w.1 w.2 := by
  simp only [ofList, insert, Entries.ofList_append_singleton]

theorem isEmpty_insert (d : Dictionary α) (key : String) (a : α) : (d.insert key a).isEmpty = false := by
  obtain ⟨entries, ascending⟩ := d
  simp only [isEmpty, insert]
  cases entries with
  | nil => rfl
  | cons e es =>
    unfold Entries.insert
    split
    · rfl
    · split <;> rfl

end Dictionary

end Preflight

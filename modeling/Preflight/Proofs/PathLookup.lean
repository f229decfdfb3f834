import Preflight.Proofs.Fields
import Preflight.Proofs.Numerals

/-! # What a path leads to
A path is followed step by step: from an object to the member that a segment names, from an array to the element at
the index that it denotes, and from nothing else. What it finds is what it leads to, unless that is `null`, so a
path that is put together from two finds what the second one finds from where the first has led. -/
namespace Preflight

def Json.IsLeaf (v : Json) : Prop := (∀ members, v ≠ .obj members) ∧ ∀ items, v ≠ .arr items

namespace FieldPath

/-- The segment is the decimal numeral of the index, with any zeros in front. -/
def Denotes (segment : String) (i : Nat) : Prop :=
  ∃ zeros, segment.toList = List.replicate zeros '0' ++ Text.numeral i

/-- Where one segment leads. Of members with one name, which the objects of a cluster do not have, it is the
first. -/
inductive Step (segment : String) : Json → Json → Prop
  | member {before after : List (String × Json)} {v : Json} (hbefore : ∀ m ∈ before, m.1 ≠ segment) :
    Step segment (.obj (before ++ (segment, v) :: after)) v
  | element {items : List Json} {i : Nat} {v : Json} (hindex : Denotes segment i) (hbound : i < UInt64.size)
    (hitem : items[i]? = some v) : Step segment (.arr items) v

/-- Where segments lead one after the other. -/
inductive Reaches : List String → Json → Json → Prop
  | here (v : Json) : Reaches [] v v
  | step {segment : String} {rest : List String} {u v w : Json} (hstep : Step segment u v)
      (hrest : Reaches rest v w) :
    Reaches (segment :: rest) u w

theorem index?_eq_some_iff {segment : String} {i : Nat} :
    index? segment = some i ↔ Denotes segment i ∧ i < UInt64.size := by
  unfold index? Text.readBelow? Denotes
  rw [← Text.readNumeral?_eq_some_iff, Option.bind_eq_bind, Option.bind_eq_some_iff]
  simp

theorem step?_eq_some_iff {segment : String} {v w : Json} : step? segment v = some w ↔ Step segment v w := by
  constructor
  · intro h
    cases v with
    | obj members =>
      obtain ⟨before, after, rfl, hbefore⟩ := Entries.find?_eq_some_iff.1 h
      exact .member hbefore
    | arr items =>
      obtain ⟨i, hi, hitem⟩ := Option.bind_eq_some_iff.1 h
      obtain ⟨hindex, hbound⟩ := index?_eq_some_iff.1 hi
      exact .element hindex hbound hitem
    | _ => cases h
  · intro h
    cases h with
    | member hbefore => exact Entries.find?_eq_some_iff.2 ⟨_, _, rfl, hbefore⟩
    | element hindex hbound hitem =>
      exact Option.bind_eq_some_iff.2 ⟨_, index?_eq_some_iff.2 ⟨hindex, hbound⟩, hitem⟩

theorem walk?_eq_some_iff {segments : List String} {v w : Json} :
    walk? segments v = some w ↔ Reaches segments v w := by
  induction segments generalizing v with
  | nil =>
    constructor
    · intro h
      cases h
      exact .here _
    · rintro ⟨⟩
      rfl
  | cons segment rest ih =>
    rw [walk?, Option.bind_eq_bind, Option.bind_eq_some_iff]
    constructor
    · rintro ⟨u, hstep, hrest⟩
      exact .step (step?_eq_some_iff.1 hstep) (ih.1 hrest)
    · rintro (_ | ⟨hstep, hrest⟩)
      exact ⟨_, step?_eq_some_iff.2 hstep, ih.2 hrest⟩

theorem lookup_eq_some_iff {p : FieldPath} {v w : Json} :
    p.lookup v = some w ↔ w ≠ .null ∧ Reaches p.segments v w := by
  rw [← walk?_eq_some_iff]
  refine ⟨fun h => ⟨?_, walk?_of_lookup h⟩, fun ⟨hw, hwalk⟩ => lookup_of_walk? hwalk hw⟩
  rintro rfl
  unfold lookup at h
  split at h
  · cases h
  · next hne => exact hne h

theorem get?_eq_str_iff {o : Object} {p : FieldPath} {text : String} :
    o.get? p = some (.str text) ↔ Reaches p.segments o.body (.str text) :=
  lookup_eq_some_iff.trans (and_iff_right nofun)

theorem entry?_eq_some_iff {o : Object} {sectionName key text : String} (hsection : index? sectionName = none)
    (hkey : index? key = none) :
    o.entry? sectionName key = some text ↔ Reaches ["metadata", sectionName, key] o.body (.str text) := by
  have hwalk : walk? ["metadata", sectionName, key] o.body =
      o.body.member? "metadata" >>= Json.member? sectionName >>= Json.member? key := by
    rw [walk?_cons_of_name (by decide)]
    cases o.body.member? "metadata" with
    | none => rfl
    | some metadata =>
      change walk? [sectionName, key] metadata = metadata.member? sectionName >>= Json.member? key
      rw [walk?_cons_of_name hsection]
      cases metadata.member? sectionName with
      | none => rfl
      | some entries => exact walk?_singleton hkey entries
  rw [← walk?_eq_some_iff, hwalk]
  unfold Object.entry?
  cases o.body.member? "metadata" >>= Json.member? sectionName >>= Json.member? key with
  | none => exact iff_of_false nofun nofun
  | some v =>
    constructor
    · intro h
      cases v with
      | str s =>
        cases h
        rfl
      | _ => cases h
    · intro h
      cases h
      rfl

theorem Reaches.unique {segments : List String} {v w w' : Json} (h : Reaches segments v w)
    (h' : Reaches segments v w') : w = w' :=
  Option.some.inj ((walk?_eq_some_iff.2 h).symm.trans (walk?_eq_some_iff.2 h'))

theorem reaches_append_iff {p q : List String} {v w : Json} :
    Reaches (p ++ q) v w ↔ ∃ u, Reaches p v u ∧ Reaches q u w := by
  simp only [← walk?_eq_some_iff, walk?_append, Option.bind_eq_bind, Option.bind_eq_some_iff]

/-- Nothing but the root leads anywhere from a leaf. -/
theorem Reaches.of_isLeaf {segments : List String} {v w : Json} (h : Reaches segments v w) (hv : v.IsLeaf) :
    segments = [] ∧ w = v := by
  cases h with
  | here => exact ⟨rfl, rfl⟩
  | step hstep hrest =>
    cases hstep with
    | member => exact absurd rfl (hv.1 _)
    | element => exact absurd rfl (hv.2 _)

private theorem isLeaf_null : Json.null.IsLeaf := ⟨nofun, nofun⟩

/-- What lies under a `null` is not found by either way of looking it up. -/
theorem lookup_append {p q pq : FieldPath} (h : pq.segments = p.segments ++ q.segments) (v : Json) :
    pq.lookup v = p.lookup v >>= q.lookup := by
  ext w
  rw [lookup_eq_some_iff, h, reaches_append_iff, Option.bind_eq_bind, Option.bind_eq_some_iff]
  constructor
  · rintro ⟨hw, u, hp, hq⟩
    have hu : u ≠ .null := by
      rintro rfl
      exact hw (hq.of_isLeaf isLeaf_null).2
    exact ⟨u, lookup_eq_some_iff.2 ⟨hu, hp⟩, lookup_eq_some_iff.2 ⟨hw, hq⟩⟩
  · rintro ⟨u, hp, hq⟩
    obtain ⟨hw, hq⟩ := lookup_eq_some_iff.1 hq
    exact ⟨hw, u, (lookup_eq_some_iff.1 hp).2, hq⟩

/-- Of two paths one after the other the second looks on from what the first finds. A path finds what its segments
lead to one after the other if that is not `null`, and nothing otherwise; so it finds nothing where they lead
through a `null` or a scalar. -/
theorem lookup_by_steps (p : FieldPath) (v : Json) :
    (∀ q pq : FieldPath, pq.segments = p.segments ++ q.segments → pq.lookup v = p.lookup v >>= q.lookup) ∧
      (∀ w, p.lookup v = some w ↔ w ≠ .null ∧ Reaches p.segments v w) ∧
      (p.lookup v = none ↔ ∀ w, Reaches p.segments v w → w = .null) ∧
      ∀ front rest u, p.segments = front ++ rest → rest ≠ [] → Reaches front v u → u.IsLeaf →
        p.lookup v = none := by
  have hnone : p.lookup v = none ↔ ∀ w, Reaches p.segments v w → w = .null := by
    rw [Option.eq_none_iff_forall_ne_some]
    refine forall_congr' fun w => ?_
    rw [Ne, lookup_eq_some_iff, and_comm, not_and, not_not]
  refine ⟨fun q pq h => lookup_append h v, fun w => lookup_eq_some_iff, hnone, ?_⟩
  intro front rest u hsegments hrest hfront hleaf
  rw [hnone, hsegments]
  intro w hw
  obtain ⟨u', hfront', hbehind⟩ := reaches_append_iff.1 hw
  obtain rfl := hfront'.unique hfront
  exact absurd (hbehind.of_isLeaf hleaf).1 hrest

def pod : Json :=
  .obj [("spec", .obj [("containers", .arr
    [.obj [("image", .str "first"), ("ports", .arr [.int 80])], .obj [("image", .null)]])])]

def containersPath : FieldPath := { segments := ["spec", "containers"], valid := by decide }

def paddedImage : FieldPath := { segments := ["00", "image"], valid := by decide }

def firstImage : FieldPath := { segments := ["spec", "containers", "00", "image"], valid := by decide }

def secondImage : FieldPath := { segments := ["spec", "containers", "1", "image"], valid := by decide }

def portName : FieldPath := { segments := ["spec", "containers", "0", "ports", "0", "name"], valid := by decide }

/-- The first image is found under an index with a zero in front, and in the list of the containers as well. An
image that is `null` is not found, and nor is the name of a port that is a number. -/
theorem images_looked_up :
    firstImage.lookup pod = some (.str "first") ∧
      (containersPath.lookup pod >>= paddedImage.lookup) = some (.str "first") ∧
      secondImage.lookup pod = none ∧ portName.lookup pod = none := by
  have hfirst : firstImage.lookup pod = some (.str "first") :=
    ((lookup_by_steps firstImage pod).2.1 _).2 ⟨nofun, walk?_eq_some_iff.1 rfl⟩
  have happend := (lookup_by_steps containersPath pod).1 paddedImage firstImage rfl
  refine ⟨hfirst, happend ▸ hfirst, ?_, ?_⟩
  · rw [(lookup_by_steps secondImage pod).2.2.1]
    exact fun w hw => hw.unique (walk?_eq_some_iff.1 rfl)
  · exact (lookup_by_steps portName pod).2.2.2 ["spec", "containers", "0", "ports", "0"] ["name"] (.int 80) rfl
      (List.cons_ne_nil _ _) (walk?_eq_some_iff.1 rfl) ⟨nofun, nofun⟩

end FieldPath

end Preflight

import Preflight.Proofs.MetadataParts

/-! # What an update of an object changes
An update writes in one place of the body, a field at the top or an entry in a section of the metadata, and every
path and every question that does not lead there is answered as before. Where there is no such place nothing
changes. -/
namespace Preflight

namespace Json

@[simp] theorem member?_setMember (members : List (String × Json)) (key key' : String) (w : Json) :
    ((Json.obj members).setMember key w).member? key' =
      if key' = key then some w else (Json.obj members).member? key' :=
  Entries.find?_insert key key' w members

theorem setMember_of_not_object {v : Json} (h : ∀ members, v ≠ .obj members) (key : String) (w : Json) :
    v.setMember key w = v := by
  cases v with
  | obj members => exact absurd rfl (h members)
  | _ => rfl

theorem setMember_eq_self {v w : Json} {key : String} (h : v.Ordered) (hw : v.member? key = some w) :
    v.setMember key w = v := by
  cases h with
  | obj hkeys hmembers => exact congrArg Json.obj (Entries.insert_eq_self hkeys hw)
  | _ => cases hw

end Json

namespace FieldPath

/-- The path behind the first segment. The root has no segment to go behind. -/
def tail (p : FieldPath) : FieldPath where
  segments := p.segments.tail
  valid := List.all_eq_true.2 fun s hs => List.all_eq_true.1 p.valid s (List.mem_of_mem_tail hs)

theorem lookup_congr {p q : FieldPath} {v w : Json} (h : walk? p.segments v = walk? q.segments w) :
    p.lookup v = q.lookup w := by
  unfold lookup
  rw [h]

/-- A walk through an object with a member set goes through that member, or is the walk that it was. -/
theorem walk?_setMember (members : List (String × Json)) (key s : String) (w : Json) (rest : List String) :
    walk? (s :: rest) ((Json.obj members).setMember key w) =
      if s = key then walk? rest w else walk? (s :: rest) (.obj members) := by
  simp only [walk?, step?, Json.setMember, Entries.find?_insert]
  split <;> rfl

end FieldPath

namespace Object

variable {o : Object}

private theorem withField_of_not_object (h : ∀ members, o.body ≠ .obj members) (key : String) (v : Json) :
    o.withField key v = o :=
  congrArg Object.mk (Json.setMember_of_not_object h key v)

/-- A field that is set is found, and the other fields of an object that has any stay. -/
theorem member?_withField {own : String} {w : Json} (h : o.body.member? own = some w) (key key' : String)
    (v : Json) :
    (o.withField key v).body.member? key' = if key' = key then some v else o.body.member? key' := by
  obtain ⟨members, hmembers, -⟩ := Json.eq_obj_of_member? h
  rw [withField, hmembers, Json.member?_setMember]

theorem get?_withField_of_head {key : String} {p : FieldPath} (hobject : ∃ members, o.body = .obj members)
    (hp : p.segments.head? = some key) (v : Json) : (o.withField key v).get? p = p.tail.lookup v := by
  obtain ⟨members, hmembers⟩ := hobject
  obtain ⟨rest, hsegments⟩ := List.head?_eq_some_iff.1 hp
  apply FieldPath.lookup_congr
  have htail : p.tail.segments = rest := congrArg List.tail hsegments
  rw [withField, hmembers, hsegments, FieldPath.walk?_setMember, if_pos rfl, htail]

theorem get?_withField_of_ne {key s : String} {p : FieldPath} (hp : p.segments.head? = some s) (hne : s ≠ key)
    (v : Json) : (o.withField key v).get? p = o.get? p := by
  obtain ⟨rest, hsegments⟩ := List.head?_eq_some_iff.1 hp
  apply FieldPath.lookup_congr
  unfold withField
  cases hbody : o.body with
  | obj members => rw [hsegments, FieldPath.walk?_setMember, if_neg hne]
  | _ => rfl

end Object

namespace MetadataSection

def write : MetadataSection → Object → String → String → Object
  | annotations => Object.withAnnotation
  | labels => Object.withLabel

theorem write_eq (s : MetadataSection) (o : Object) (key value : String) :
    s.write o key value = o.withEntry s.name key value := by
  cases s <;> rfl

theorem name_injective {s s' : MetadataSection} (h : s.name = s'.name) : s = s' := by
  cases s <;> cases s' <;> first | rfl | exact absurd h (by decide)

/-- The metadata is an object in which the section is one, too, or can be begun. -/
def IsOpen (s : MetadataSection) (o : Object) : Prop :=
  ∃ members, o.body.member? "metadata" = some (.obj members) ∧
    (Entries.find? s.name members = none ∨ ∃ entries, Entries.find? s.name members = some (.obj entries))

/-- The second object is the first one with an entry of a section written, and with nothing else changed. -/
structure Writes (s : MetadataSection) (key value : String) (o o' : Object) : Prop where
  entry : s.entryOf o' key = some value
  /-- Other entries of the section and all entries of the other one. -/
  others : ∀ s' key', (s', key') ≠ (s, key) → s'.entryOf o' key' = s'.entryOf o key'
  name : Item.name o' = Item.name o
  namespaceName : Item.namespaceName o' = Item.namespaceName o
  /-- Paths that neither end on the way to the section nor lead through it. -/
  elsewhere : ∀ p : FieldPath, ¬ p.segments <+: ["metadata", s.name] → ¬ ["metadata", s.name] <+: p.segments →
    o'.get? p = o.get? p

variable {s : MetadataSection} {o : Object} {key value : String}

private theorem write_eq_self (hordered : o.body.Ordered) (h : ¬ s.IsOpen o) (key value : String) :
    s.write o key value = o := by
  rw [write_eq, Object.withEntry]
  split
  · next members hmetadata =>
    cases hfind : Entries.find? s.name members with
    | none => exact absurd ⟨members, hmetadata, .inl hfind⟩ h
    | some v =>
      have hclosed : ∀ entries, v ≠ .obj entries := by
        rintro entries rfl
        exact h ⟨members, hmetadata, .inr ⟨entries, hfind⟩⟩
      have hmembers : (Json.obj members).setMember s.name v = .obj members :=
        Json.setMember_eq_self (hordered.member? hmetadata) hfind
      simp only [Option.getD_some, Json.setMember_of_not_object hclosed, hmembers]
      exact congrArg Object.mk (Json.setMember_eq_self hordered hmetadata)
  · rfl

theorem write_of_member {members : List (String × Json)}
    (hmetadata : o.body.member? "metadata" = some (.obj members))
    (key value : String) : s.write o key value = o.withField "metadata" ((Json.obj members).setMember s.name
      (((Entries.find? s.name members).getD (.obj [])).setMember key (.str value))) := by
  rw [write_eq, Object.withEntry, hmetadata]

/-- In an open section there are some entries, none if it is not begun, to which the new one is added. -/
theorem exists_of_isOpen (h : s.IsOpen o) (key value : String) : ∃ members entries,
    o.body.member? "metadata" = some (.obj members) ∧
      (∀ key', Entries.find? s.name members >>= Json.member? key' = Entries.find? key' entries) ∧
      s.write o key value = o.withField "metadata" ((Json.obj members).setMember s.name
        ((Json.obj entries).setMember key (.str value))) := by
  obtain ⟨members, hmetadata, hsection⟩ := h
  have hwrite : s.write o key value = _ := write_of_member hmetadata key value
  rcases hsection with habsent | ⟨entries, hentries⟩
  · rw [habsent] at hwrite
    exact ⟨members, [], hmetadata, fun key' => habsent ▸ rfl, hwrite⟩
  · rw [hentries] at hwrite
    exact ⟨members, entries, hmetadata, fun key' => hentries ▸ rfl, hwrite⟩

/-- A path that takes neither its first nor its second step towards the section stays clear of it. -/
theorem get?_write_elsewhere {members : List (String × Json)}
    (hmetadata : o.body.member? "metadata" = some (.obj members)) (v : Json) {p : FieldPath}
    (habove : ¬ p.segments <+: ["metadata", s.name]) (hthrough : ¬ ["metadata", s.name] <+: p.segments) :
    (o.withField "metadata" ((Json.obj members).setMember s.name v)).get? p = o.get? p := by
  obtain ⟨root, hroot, -⟩ := Json.eq_obj_of_member? hmetadata
  cases hsegments : p.segments with
  | nil => exact absurd (hsegments ▸ List.nil_prefix) habove
  | cons first rest =>
    by_cases hfirst : first = "metadata"
    · subst hfirst
      apply FieldPath.lookup_congr
      rw [Object.withField, hroot, hsegments, FieldPath.walk?_setMember, if_pos rfl,
        FieldPath.walk?_of_member? (by decide) (hroot ▸ hmetadata)]
      cases rest with
      | nil => exact absurd (hsegments ▸ ⟨[s.name], rfl⟩) habove
      | cons second rest =>
        have hsecond : second ≠ s.name := by
          rintro rfl
          exact hthrough (hsegments ▸ ⟨rest, rfl⟩)
        rw [FieldPath.walk?_setMember, if_neg hsecond]
    · exact Object.get?_withField_of_ne (hsegments ▸ rfl) hfirst _

private theorem writes_of_isOpen (h : s.IsOpen o) (key value : String) :
    s.Writes key value o (s.write o key value) := by
  obtain ⟨members, entries, hmetadata, hentries, hwrite⟩ := exists_of_isOpen h key value
  rw [hwrite]
  generalize hnew : (Json.obj entries).setMember key (.str value) = new
  generalize hafter : o.withField "metadata" ((Json.obj members).setMember s.name new) = o'
  have hwritten : o'.body.member? "metadata" = some ((Json.obj members).setMember s.name new) := by
    rw [← hafter, Object.member?_withField hmetadata, if_pos rfl]
  have hpart (field : String) (hfield : field ≠ s.name) :
      ((Json.obj members).setMember s.name new).member? field = (Json.obj members).member? field := by
    rw [Json.member?_setMember, if_neg hfield]
  have htext (field : String) (hfield : field ≠ s.name) : o'.metadataText? field = o.metadataText? field := by
    rw [Object.metadataText?_of_member hwritten, Object.metadataText?_of_member hmetadata, hpart field hfield]
  have hsection (key' : String) :
      s.entryOf o' key' = if key' = key then some value else s.entryOf o key' := by
    rw [entryOf_eq, entryOf_eq, Object.entry?_of_member hwritten, Object.entry?_of_member hmetadata,
      Json.member?_setMember, if_pos rfl]
    change new.member? key' >>= Json.string? = ite _ _ (Entries.find? s.name members >>= _ >>= _)
    rw [hentries, ← hnew, Json.member?_setMember]
    split <;> rfl
  refine ⟨?_, fun s' key' hne => ?_, ?_, ?_, fun p habove hthrough => ?_⟩
  · rw [hsection, if_pos rfl]
  · by_cases hs : s' = s
    · subst hs
      have hkey : key' ≠ key := fun heq => hne (congrArg (Prod.mk s') heq)
      rw [hsection, if_neg hkey]
    · rw [entryOf_eq, entryOf_eq, Object.entry?_of_member hwritten, Object.entry?_of_member hmetadata,
        hpart s'.name fun hname => hs (name_injective hname)]
  · change (o'.metadataText? "name").getD "" = (o.metadataText? "name").getD ""
    rw [htext "name" (by cases s <;> decide)]
  · exact htext "namespace" (by cases s <;> decide)
  · rw [← hafter]
    exact get?_write_elsewhere hmetadata new habove hthrough

end MetadataSection

namespace Object

/-- Setting a field and writing an entry of the metadata change that field and that entry and nothing else, and an
object that has no place for them not at all. -/
theorem updates_in_place (o : Object) (hordered : o.body.Ordered) :
    (∀ key v,
      ((∀ members, o.body ≠ .obj members) → o.withField key v = o) ∧
        ((∃ members, o.body = .obj members) → ∀ p : FieldPath,
          (p.segments.head? = some key → (o.withField key v).get? p = p.tail.lookup v) ∧
            ∀ s, p.segments.head? = some s → s ≠ key → (o.withField key v).get? p = o.get? p)) ∧
      ∀ (s : MetadataSection) key value,
        (¬ s.IsOpen o → s.write o key value = o) ∧ (s.IsOpen o → s.Writes key value o (s.write o key value)) := by
  refine ⟨fun key v => ⟨fun hscalar => ?_, fun hobject p => ⟨fun hp => ?_, fun s hp hne => ?_⟩⟩,
    fun s key value => ⟨fun hclosed => ?_, fun hopen => ?_⟩⟩
  · exact withField_of_not_object hscalar key v
  · exact get?_withField_of_head hobject hp v
  · exact get?_withField_of_ne hp hne v
  · exact MetadataSection.write_eq_self hordered hclosed key value
  · exact MetadataSection.writes_of_isOpen hopen key value

def withoutAnnotations : Object :=
  ⟨Json.object [("metadata", Json.object [("annotations", .null), ("labels", Json.object [("app", .str "nb")])]),
    ("spec", Json.object [("size", .int 1)])]⟩

/-- The annotations stay `null`, and a further label leaves the first one and the size. -/
theorem withoutAnnotations_updated :
    withoutAnnotations.body.Ordered ∧ withoutAnnotations.withAnnotation "team" "a" = withoutAnnotations ∧
      Item.labelOf (withoutAnnotations.withLabel "rank" "1") "rank" = some "1" ∧
      Item.labelOf (withoutAnnotations.withLabel "rank" "1") "app" = some "nb" ∧
      (withoutAnnotations.withLabel "rank" "1").get? { segments := ["spec", "size"], valid := by decide } =
        some (.int 1) := by
  have hordered : withoutAnnotations.body.Ordered := by
    refine .object ?_
    simp only [List.forall_mem_cons]
    refine ⟨.object ?_, .object (List.forall_mem_singleton.2 (.int 1)), nofun⟩
    simp only [List.forall_mem_cons]
    exact ⟨.null, .object (List.forall_mem_singleton.2 (.str _)), nofun⟩
  obtain ⟨-, hentries⟩ := updates_in_place withoutAnnotations hordered
  have hclosed : ¬ MetadataSection.annotations.IsOpen withoutAnnotations := by
    rintro ⟨members, hmetadata, hsection⟩
    cases hmetadata
    rcases hsection with habsent | ⟨entries, hentries⟩
    · cases habsent
    · cases hentries
  have hopen : MetadataSection.labels.IsOpen withoutAnnotations := ⟨_, rfl, .inr ⟨_, rfl⟩⟩
  have hwrites := (hentries .labels "rank" "1").2 hopen
  refine ⟨hordered, (hentries .annotations "team" "a").1 hclosed, hwrites.entry, ?_, ?_⟩
  · exact hwrites.others .labels "app" (by decide)
  · exact hwrites.elsewhere _ (by decide) (by decide)

end Object

end Preflight

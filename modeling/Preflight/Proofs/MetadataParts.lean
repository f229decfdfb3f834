import Preflight.Cluster.Selector
import Preflight.Proofs.Fields
import Preflight.Proofs.ItemShapes

/-! # Metadata part by part
The metadata of an object is decoded as a whole or not at all, while the object itself answers from each part alone.
So its two shapes agree if every part that is there has its type. If one part has not, the reduced shape is blank,
and the whole object still gives each text that stands in its place. -/
namespace Preflight

theorem exists_mapM_eq_ok_iff {ε α β : Type} {f : α → Except ε β} {as : List α} :
    (∃ bs, as.mapM f = .ok bs) ↔ ∀ a ∈ as, ∃ b, f a = .ok b := by
  induction as with
  | nil => exact ⟨fun _ => nofun, fun _ => ⟨[], rfl⟩⟩
  | cons a as ih =>
    rw [List.forall_mem_cons, ← ih, List.mapM_cons]
    constructor
    · rintro ⟨bs, h⟩
      obtain ⟨b, hb, h⟩ := exists_of_bind_eq_ok h
      obtain ⟨rest, hrest, -⟩ := exists_of_bind_eq_ok h
      exact ⟨⟨b, hb⟩, rest, hrest⟩
    · rintro ⟨⟨b, hb⟩, rest, hrest⟩
      rw [hb, hrest]
      exact ⟨b :: rest, rfl⟩

namespace Json

variable {v : Json}

def IsText (v : Json) : Prop := ∃ text, v = .str text

theorem exists_asString_eq_ok_iff : (∃ text, v.asString = .ok text) ↔ v.IsText := by
  constructor
  · rintro ⟨text, h⟩
    cases v with
    | str s => exact ⟨s, rfl⟩
    | _ => cases h
  · rintro ⟨text, rfl⟩
    exact ⟨text, rfl⟩

private theorem exists_asOption_eq_ok_iff : (∃ o, asOption asString v = .ok o) ↔ v = .null ∨ v.IsText := by
  constructor
  · rintro ⟨o, h⟩
    cases v with
    | null => exact .inl rfl
    | str s => exact .inr ⟨s, rfl⟩
    | _ => cases h
  · rintro (rfl | ⟨text, rfl⟩)
    · exact ⟨none, rfl⟩
    · exact ⟨some text, rfl⟩

private theorem exists_asDictionary_eq_ok_iff :
    (∃ d, asDictionary asString v = .ok d) ↔ ∃ entries, v = .obj entries ∧ ∀ e ∈ entries, e.2.IsText := by
  have hentry (e : String × Json) :
      (∃ entry, (do let text ← asString e.2; return (e.1, text) : Decoded (String × String)) = .ok entry) ↔
        e.2.IsText := by
    rw [← exists_asString_eq_ok_iff]
    constructor
    · rintro ⟨entry, h⟩
      obtain ⟨text, htext, -⟩ := exists_of_bind_eq_ok h
      exact ⟨text, htext⟩
    · rintro ⟨text, htext⟩
      rw [htext]
      exact ⟨(e.1, text), rfl⟩
  constructor
  · rintro ⟨d, h⟩
    cases v with
    | obj entries =>
      obtain ⟨read, hread, -⟩ := exists_of_bind_eq_ok h
      have hall := exists_mapM_eq_ok_iff.1 ⟨read, hread⟩
      exact ⟨entries, rfl, fun e he => (hentry e).1 (hall e he)⟩
    | _ => cases h
  · rintro ⟨entries, rfl, htexts⟩
    obtain ⟨read, hread⟩ := exists_mapM_eq_ok_iff.2 fun e he => (hentry e).2 (htexts e he)
    refine ⟨Dictionary.ofList read, ?_⟩
    change (_ >>= _) = _
    rw [hread]
    rfl

end Json

/-- A field with a default is read if it is absent, or can be read where it stands. -/
theorem Slots.exists_defaulted_eq_ok_iff {α : Type} {ms : List (String × Json)} {field : String}
    {value : Json → Decoded α} {default : α} :
    (∃ a, (members ms).defaulted field value default = .ok a) ↔
      ∀ v, Entries.find? field ms = some v → ∃ a, value v = .ok a := by
  rw [defaulted_members]
  cases Entries.find? field ms with
  | none => exact ⟨fun _ => nofun, fun _ => ⟨default, rfl⟩⟩
  | some v =>
    constructor
    · rintro h w hw
      cases hw
      exact h
    · exact fun h => h v rfl

inductive MetadataSection | annotations | labels
  deriving DecidableEq

namespace MetadataSection

def name : MetadataSection → String
  | annotations => "annotations"
  | labels => "labels"

def entryOf {α : Type} [Item α] : MetadataSection → α → String → Option String
  | annotations => Item.annotationOf
  | labels => Item.labelOf

theorem entryOf_eq (s : MetadataSection) (o : Object) (key : String) : s.entryOf o key = o.entry? s.name key := by
  cases s <;> rfl

end MetadataSection

/-- A part of the metadata is there without being of its type. Only the namespace may be `null`. -/
inductive ObjectMeta.Misfit (members : List (String × Json)) : Prop
  | name {v : Json} (h : Entries.find? "name" members = some v) (hv : ¬ v.IsText)
  | namespaceName {v : Json} (h : Entries.find? "namespace" members = some v) (hnull : v ≠ .null) (hv : ¬ v.IsText)
  | texts (s : MetadataSection) {v : Json} (h : Entries.find? s.name members = some v)
    (hv : ∀ entries, v ≠ .obj entries)
  | entry (s : MetadataSection) {entries : List (String × Json)}
    (h : Entries.find? s.name members = some (.obj entries)) {e : String × Json} (he : e ∈ entries)
    (hv : ¬ e.2.IsText)

namespace ObjectMeta

variable {members : List (String × Json)}

theorem exists_ofJson_eq_ok_iff_parts :
    (∃ m, ofJson .json (.obj members) = .ok m) ↔
      (∃ name, (Slots.members members).defaulted "name" Json.asString "" = .ok name) ∧
        (∃ ns, (Slots.members members).defaulted "namespace" (Json.asOption Json.asString) none = .ok ns) ∧
        ∀ s : MetadataSection, ∃ texts,
          (Slots.members members).defaulted s.name (Json.asDictionary Json.asString)
            Dictionary.empty = .ok texts := by
  constructor
  · rintro ⟨m, h⟩
    change ((Slots.members members).defaulted "name" Json.asString "" >>= _) = _ at h
    obtain ⟨name, hname, h⟩ := exists_of_bind_eq_ok h
    obtain ⟨ns, hnamespace, h⟩ := exists_of_bind_eq_ok h
    obtain ⟨labels, hlabels, h⟩ := exists_of_bind_eq_ok h
    obtain ⟨annotations, hannotations, -⟩ := exists_of_bind_eq_ok h
    refine ⟨⟨name, hname⟩, ⟨ns, hnamespace⟩, fun s => ?_⟩
    cases s with
    | annotations => exact ⟨annotations, hannotations⟩
    | labels => exact ⟨labels, hlabels⟩
  · rintro ⟨⟨name, hname⟩, ⟨ns, hnamespace⟩, htexts⟩
    obtain ⟨labels, hlabels⟩ := htexts .labels
    obtain ⟨annotations, hannotations⟩ := htexts .annotations
    simp only [MetadataSection.name] at hlabels hannotations
    refine ⟨⟨name, ns, labels, annotations⟩, ?_⟩
    simp only [ofJson, Json.asRecord, hname, hnamespace, hlabels, hannotations]
    rfl

theorem exists_ofJson_eq_ok_iff : (∃ m, ofJson .json (.obj members) = .ok m) ↔ ¬ Misfit members := by
  simp only [exists_ofJson_eq_ok_iff_parts, Slots.exists_defaulted_eq_ok_iff, Json.exists_asString_eq_ok_iff,
    Json.exists_asOption_eq_ok_iff, Json.exists_asDictionary_eq_ok_iff]
  constructor
  · rintro ⟨hname, hnamespace, htexts⟩ hmisfit
    cases hmisfit with
    | name hfind hv => exact hv (hname _ hfind)
    | namespaceName hfind hnull hv => exact (hnamespace _ hfind).elim hnull hv
    | texts s hfind hv =>
      obtain ⟨entries, hentries, -⟩ := htexts s _ hfind
      exact hv entries hentries
    | entry s hfind he hv =>
      obtain ⟨entries, hentries, hall⟩ := htexts s _ hfind
      cases hentries
      exact hv (hall _ he)
  · intro hfits
    refine ⟨fun v hfind => ?_, fun v hfind => ?_, fun s v hfind => ?_⟩
    · apply Classical.byContradiction
      exact fun hv => hfits (.name hfind hv)
    · apply Classical.byContradiction
      exact fun hv => hfits (.namespaceName hfind (hv ∘ .inl) (hv ∘ .inr))
    · cases v with
      | obj entries =>
        refine ⟨entries, rfl, fun e he => ?_⟩
        apply Classical.byContradiction
        exact fun hv => hfits (.entry s hfind he hv)
      | _ => exact absurd (.texts s hfind nofun) hfits

end ObjectMeta

namespace Object

variable {o : Object}

def HasMisfit (o : Object) : Prop :=
  ∃ members, o.body.member? "metadata" = some (.obj members) ∧ ObjectMeta.Misfit members

private theorem metadata_of_misfit (h : o.HasMisfit) : o.metadata = {} := by
  obtain ⟨members, hmember, hmisfit⟩ := h
  rw [metadata, hmember, Option.map_some]
  cases hdecoded : ObjectMeta.ofJson .json (.obj members) with
  | error e => rfl
  | ok m => exact absurd hmisfit (ObjectMeta.exists_ofJson_eq_ok_iff.1 ⟨m, hdecoded⟩)

/-- Metadata that is absent or an object is well formed, unless there is a misfit in it. -/
theorem hasPlainMetadata_iff (hmetadata : ∀ v, o.body.member? "metadata" = some v → ∃ members, v = .obj members) :
    o.HasPlainMetadata ↔ ¬ o.HasMisfit := by
  constructor
  · rintro (habsent | ⟨members, m, hmember, hdecoded⟩) ⟨members', hmember', hmisfit⟩
    · cases habsent.symm.trans hmember'
    · cases hmember.symm.trans hmember'
      exact ObjectMeta.exists_ofJson_eq_ok_iff.1 ⟨m, hdecoded⟩ hmisfit
  · intro hfits
    cases hmember : o.body.member? "metadata" with
    | none => exact .inl hmember
    | some v =>
      obtain ⟨members, rfl⟩ := hmetadata v hmember
      obtain ⟨m, hdecoded⟩ := ObjectMeta.exists_ofJson_eq_ok_iff.2 fun hmisfit => hfits ⟨members, hmember, hmisfit⟩
      exact .inr ⟨members, m, hmember, hdecoded⟩

/-- What the whole object says of itself when these are the members of its metadata. -/
structure AnswersFrom (o : Object) (members : List (String × Json)) : Prop where
  name : ∀ text, Entries.find? "name" members = some (.str text) → Item.name o = text
  namespaceName : ∀ text, Item.namespaceName o = some text ↔ Entries.find? "namespace" members = some (.str text)
  entry : ∀ (s : MetadataSection) key text, s.entryOf o key = some text ↔
    ∃ entries, Entries.find? s.name members = some (.obj entries) ∧ Entries.find? key entries = some (.str text)

theorem bind_string?_eq_some_iff {found : Option Json} {text : String} :
    found >>= Json.string? = some text ↔ found = some (.str text) := by
  constructor
  · intro h
    obtain ⟨v, rfl, htext⟩ := Option.bind_eq_some_iff.1 h
    cases v with
    | str s => exact congrArg (some ∘ Json.str) (Option.some.inj htext)
    | _ => cases htext
  · rintro rfl
    rfl

theorem answersFrom {members : List (String × Json)} (h : o.body.member? "metadata" = some (.obj members)) :
    o.AnswersFrom members where
  name text htext := by
    have hname : (Json.obj members).member? "name" = some (.str text) := htext
    change (o.metadataText? "name").getD "" = text
    rw [metadataText?_of_member h, bind_string?_eq_some_iff.2 hname]
    rfl
  namespaceName text := by
    change o.metadataText? "namespace" = some text ↔ _
    rw [metadataText?_of_member h, bind_string?_eq_some_iff]
    rfl
  entry s key text := by
    rw [MetadataSection.entryOf_eq, entry?_of_member h, bind_string?_eq_some_iff]
    constructor
    · intro hentry
      obtain ⟨v, hv, hmember⟩ := Option.bind_eq_some_iff.1 hentry
      obtain ⟨entries, rfl, hfind⟩ := Json.eq_obj_of_member? hmember
      exact ⟨entries, hv, hfind⟩
    · rintro ⟨entries, hentries, hfind⟩
      exact Option.bind_eq_some_iff.2 ⟨.obj entries, hentries, hfind⟩

end Object

structure Item.Agree {α β : Type} [Item α] [Item β] (a : α) (b : β) : Prop where
  name : Item.name a = Item.name b
  namespaceName : Item.namespaceName a = Item.namespaceName b
  annotationOf : ∀ key, Item.annotationOf a key = Item.annotationOf b key
  labelOf : ∀ key, Item.labelOf a key = Item.labelOf b key
  ref : Item.ref a = Item.ref b
  selects : ∀ selector, Selector.selects selector a = Selector.selects selector b

private theorem Requirement.holds_congr {α β : Type} [Item α] [Item β] {a : α} {b : β}
    (h : ∀ key, Item.labelOf a key = Item.labelOf b key) (r : Requirement) : r.holds a = r.holds b := by
  cases r with
  | labelled key => simp only [holds, h]
  | labelledWith key value => simp only [holds, h]

private theorem Item.Agree.of_view {α β : Type} [Item α] [Item β] {a : α} {b : β} (h : Item.view a = Item.view b) :
    Item.Agree a b where
  name := congrArg ItemView.name h
  namespaceName := congrArg ItemView.namespaceName h
  annotationOf key := congrFun (congrArg ItemView.annotationOf h) key
  labelOf key := congrFun (congrArg ItemView.labelOf h) key
  ref := congrArg (fun view : ItemView => (⟨view.namespaceName, view.name, Dictionary.empty⟩ : ObjectRef)) h
  selects selector := by
    have hlabels (key : String) : Item.labelOf a key = Item.labelOf b key :=
      congrFun (congrArg ItemView.labelOf h) key
    unfold Selector.selects
    congr 1
    exact funext (Requirement.holds_congr hlabels)

namespace Object

/-- An object whose metadata is absent or an object either has well-formed metadata, and then its two shapes agree,
or a misfit in it. Then the reduced shape is blank, and the whole object still gives every text that stands in its
place. -/
theorem shapes_agree_or_blank (o : Object) (type : ResourceType)
    (hmetadata : ∀ v, o.body.member? "metadata" = some v → ∃ members, v = .obj members)
    (hordered : o.body.Ordered) :
    (o.HasPlainMetadata ↔ ¬ o.HasMisfit) ∧
      (o.HasPlainMetadata → Item.Agree (o.toPartial type) o) ∧
      (o.HasMisfit →
        o.toPartial type =
            ⟨type.typeMeta, { name := "", namespaceName := none, labels := .empty, annotations := .empty }⟩ ∧
          ∀ members, o.body.member? "metadata" = some (.obj members) → o.AnswersFrom members) := by
  refine ⟨hasPlainMetadata_iff hmetadata, fun hplain => ?_, fun hmisfit => ⟨?_, fun members => answersFrom⟩⟩
  · exact .of_view (view_toPartial hplain hordered type)
  · rw [toPartial, metadata_of_misfit hmisfit]

def withRank : Object :=
  ⟨Json.object [("metadata", Json.object [("name", .str "lab"), ("annotations", Json.object [("team", .str "a")]),
    ("labels", Json.object [("app", .str "nb"), ("rank", .int 1)])])]⟩

/-- The number takes all of the metadata from the reduced shape, and from the whole object nothing but itself. -/
theorem withRank_blank :
    (∀ v, withRank.body.member? "metadata" = some v → ∃ members, v = .obj members) ∧ withRank.body.Ordered ∧
      withRank.HasMisfit ∧ Item.name (withRank.toPartial .notebook) = "" ∧ Item.name withRank = "lab" ∧
      Item.labelOf (withRank.toPartial .notebook) "app" = none ∧ Item.labelOf withRank "app" = some "nb" := by
  have hmetadata : ∀ v, withRank.body.member? "metadata" = some v → ∃ members, v = .obj members := by
    rintro v hv
    cases hv
    exact ⟨_, rfl⟩
  have hordered : withRank.body.Ordered := by
    refine .object (List.forall_mem_singleton.2 (.object ?_))
    simp only [List.forall_mem_cons]
    refine ⟨.str _, .object (List.forall_mem_singleton.2 (.str _)), .object ?_, nofun⟩
    simp only [List.forall_mem_cons]
    exact ⟨.str _, .int _, nofun⟩
  have hmisfit : withRank.HasMisfit := by
    refine ⟨_, rfl, .entry .labels rfl (e := ("rank", .int 1)) (.tail _ (.head _)) ?_⟩
    rintro ⟨text, htext⟩
    cases htext
  obtain ⟨-, -, hblank⟩ := shapes_agree_or_blank withRank .notebook hmetadata hordered
  obtain ⟨hpartial, hanswers⟩ := hblank hmisfit
  refine ⟨hmetadata, hordered, hmisfit, ?_, (hanswers _ rfl).name "lab" rfl, ?_, ?_⟩
  · rw [hpartial]
    rfl
  · rw [hpartial]
    rfl
  · exact ((hanswers _ rfl).entry .labels "app" "nb").2 ⟨_, rfl, rfl⟩

end Object

end Preflight

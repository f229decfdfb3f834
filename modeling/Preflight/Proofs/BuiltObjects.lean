import Mathlib.Data.List.Induction
import Preflight.Proofs.ObjectUpdates

/-! # Objects that are built up
An object begins with its type, its name and perhaps a namespace, and is built up by updates that leave these alone.
In whatever order they come, it keeps what it began with and holds what was last written in each place, and all of
its metadata can be decoded. -/
namespace Preflight

namespace Entries

variable {α : Type}

/-- The value that was last written under a key. -/
def last? (key : String) (writes : List (String × α)) : Option α := find? key writes.reverse

theorem last?_append_singleton (key : String) (writes : List (String × α)) (w : String × α) :
    last? key (writes ++ [w]) = if key = w.1 then some w.2 else last? key writes := by
  rw [last?, List.reverse_append, List.reverse_singleton, List.singleton_append, find?]
  rfl

/-- Entries that are put in order have under each key what was last written there. -/
theorem find?_ofList (key : String) (writes : List (String × α)) :
    find? key (ofList writes) = last? key writes := by
  induction writes using List.reverseRecOn with
  | nil => rfl
  | append_singleton writes w ih => rw [ofList_append_singleton, find?_insert, last?_append_singleton, ih]

end Entries

private theorem Json.setMember_ofDictionary {α : Type} (value : α → Json) (d : Dictionary α) (key : String)
    (a : α) :
    (ofDictionary value d).setMember key (value a) = ofDictionary value (d.insert key a) :=
  congrArg Json.obj (Entries.insert_map value key a d.entries)

namespace ObjectMeta

def textsOf (m : ObjectMeta) : MetadataSection → Dictionary String
  | .annotations => m.annotations
  | .labels => m.labels

def write (m : ObjectMeta) (s : MetadataSection) (key value : String) : ObjectMeta :=
  match s with
  | .annotations => { m with annotations := m.annotations.insert key value }
  | .labels => { m with labels := m.labels.insert key value }

private theorem textsOf_write (m : ObjectMeta) (s s' : MetadataSection) (key value : String) :
    (m.write s key value).textsOf s' = if s' = s then (m.textsOf s).insert key value else m.textsOf s' := by
  cases s <;> cases s' <;> rfl

private theorem name_write (m : ObjectMeta) (s : MetadataSection) (key value : String) :
    (m.write s key value).name = m.name := by
  cases s <;> rfl

private theorem namespaceName_write (m : ObjectMeta) (s : MetadataSection) (key value : String) :
    (m.write s key value).namespaceName = m.namespaceName := by
  cases s <;> rfl

/-- The metadata stands in these members, where a section without texts is left out. -/
structure StandsIn (m : ObjectMeta) (members : List (String × Json)) : Prop where
  name : Entries.find? "name" members = some (.str m.name)
  namespaceName : Entries.find? "namespace" members = m.namespaceName.map .str
  texts : ∀ s : MetadataSection, Entries.find? s.name members =
    if (m.textsOf s).isEmpty then none else some (Json.ofDictionary .str (m.textsOf s))

variable {m : ObjectMeta} {members : List (String × Json)}

theorem StandsIn.getD_texts (h : m.StandsIn members) (s : MetadataSection) :
    (Entries.find? s.name members).getD (.obj []) = Json.ofDictionary .str (m.textsOf s) := by
  rw [h.texts]
  cases hempty : (m.textsOf s).isEmpty with
  | true =>
    rw [Dictionary.eq_empty_of_isEmpty hempty]
    rfl
  | false => rfl

theorem StandsIn.write (h : m.StandsIn members) (s : MetadataSection) (key value : String) :
    (m.write s key value).StandsIn
      (Entries.insert s.name (Json.ofDictionary .str ((m.textsOf s).insert key value)) members) where
  name := by rw [Entries.find?_insert, if_neg (by cases s <;> decide), h.name, name_write]
  namespaceName := by
    rw [Entries.find?_insert, if_neg (by cases s <;> decide), h.namespaceName, namespaceName_write]
  texts s' := by
    rw [Entries.find?_insert, textsOf_write]
    by_cases hs : s' = s
    · rw [if_pos (congrArg MetadataSection.name hs), if_pos hs, Dictionary.isEmpty_insert]
      rfl
    · rw [if_neg fun hname => hs (MetadataSection.name_injective hname), if_neg hs, h.texts]

theorem StandsIn.ofJson (h : m.StandsIn members) : ObjectMeta.ofJson .json (.obj members) = .ok m := by
  have hname : (Slots.members members).defaulted "name" Json.asString "" = .ok m.name := by
    rw [Slots.defaulted_members, h.name]
    rfl
  have hnamespace := Slots.defaulted_optional h.namespaceName Json.readsBack_asString nofun
  have hlabels := Slots.defaulted_dictionary (h.texts .labels) Json.readsBack_asString
  have hannotations := Slots.defaulted_dictionary (h.texts .annotations) Json.readsBack_asString
  simp only [MetadataSection.name] at hlabels hannotations
  simp only [ObjectMeta.ofJson, Json.asRecord, hname, hnamespace, hlabels, hannotations]
  rfl

end ObjectMeta

def Object.identity : List String := ["apiVersion", "kind", "metadata"]

/-- An update that leaves alone what an object is. -/
inductive Edit
  | entry (s : MetadataSection) (key value : String)
  | field (key : String) (value : Json) (hkey : key ∉ Object.identity)

namespace Edit

def apply (o : Object) : Edit → Object
  | entry s key value => s.write o key value
  | field key value _ => o.withField key value

def entry? (s : MetadataSection) : Edit → Option (String × String)
  | entry s' key value => if s' = s then some (key, value) else none
  | field .. => none

def field? : Edit → Option (String × Json)
  | entry .. => none
  | field key value _ => some (key, value)

end Edit

namespace Object

def built (type : ResourceType) (namespaceName : Option String) (name : String) (edits : List Edit) : Object :=
  edits.foldl Edit.apply (.new type namespaceName name)

/-- The object is of the type, with this metadata, and was last written these other fields. -/
structure Holds (o : Object) (type : ResourceType) (m : ObjectMeta) (fields : List (String × Json)) : Prop where
  apiVersion : o.body.member? "apiVersion" = some (.str type.apiVersion)
  kind : o.body.member? "kind" = some (.str type.kind)
  metadata : ∃ members, o.body.member? "metadata" = some (.obj members) ∧ m.StandsIn members
  fields : ∀ key ∉ identity, o.body.member? key = Entries.last? key fields

private theorem holds_new (type : ResourceType) (namespaceName : Option String) (name : String) :
    (Object.new type namespaceName name).Holds type { name, namespaceName } [] := by
  have hmember (key : String) : (Object.new type namespaceName name).body.member? key = Entries.last? key _ :=
    Entries.find?_ofList key _
  refine ⟨?_, ?_, ⟨_, hmember "metadata", ?_, ?_, fun s => ?_⟩, fun key hkey => ?_⟩
  · rw [hmember]
    rfl
  · rw [hmember]
    rfl
  · rw [Entries.find?_ofList]
    cases namespaceName <;> rfl
  · rw [Entries.find?_ofList]
    cases namespaceName <;> rfl
  · rw [Entries.find?_ofList]
    cases namespaceName <;> cases s <;> rfl
  · simp only [identity, List.mem_cons, List.not_mem_nil, or_false, not_or] at hkey
    rw [hmember]
    simp [Entries.last?, Entries.find?, hkey]

variable {o : Object} {type : ResourceType} {m : ObjectMeta} {fields : List (String × Json)}

theorem Holds.write (h : o.Holds type m fields) (s : MetadataSection) (key value : String) :
    (s.write o key value).Holds type (m.write s key value) fields := by
  obtain ⟨members, hmetadata, hstands⟩ := h.metadata
  have hwrite : s.write o key value = _ := MetadataSection.write_of_member hmetadata key value
  rw [hstands.getD_texts, Json.setMember_ofDictionary] at hwrite
  rw [hwrite]
  refine ⟨?_, ?_, ⟨_, ?_, hstands.write s key value⟩, fun key' hkey' => ?_⟩
  · rw [member?_withField hmetadata, if_neg (by decide), h.apiVersion]
  · rw [member?_withField hmetadata, if_neg (by decide), h.kind]
  · rw [member?_withField hmetadata, if_pos rfl]
    rfl
  · have hne : key' ≠ "metadata" := fun heq => hkey' (heq ▸ by decide)
    rw [member?_withField hmetadata, if_neg hne, h.fields key' hkey']

theorem Holds.withField (h : o.Holds type m fields) {key : String} (hkey : key ∉ identity) (value : Json) :
    (o.withField key value).Holds type m (fields ++ [(key, value)]) := by
  have hset := member?_withField h.kind key (v := value)
  have hne (own : String) (hown : own ∈ identity) : own ≠ key := fun heq => hkey (heq ▸ hown)
  obtain ⟨members, hmetadata, hstands⟩ := h.metadata
  refine ⟨?_, ?_, ⟨members, ?_, hstands⟩, fun key' hkey' => ?_⟩
  · rw [hset, if_neg (hne _ (by decide)), h.apiVersion]
  · rw [hset, if_neg (hne _ (by decide)), h.kind]
  · rw [hset, if_neg (hne _ (by decide)), hmetadata]
  · rw [hset, Entries.last?_append_singleton, h.fields key' hkey']

def writtenMetadata (namespaceName : Option String) (name : String) (edits : List Edit) : ObjectMeta where
  name := name
  namespaceName := namespaceName
  labels := .ofList (edits.filterMap (Edit.entry? .labels))
  annotations := .ofList (edits.filterMap (Edit.entry? .annotations))

section

variable (namespaceName : Option String) (name : String) (edits : List Edit)

private theorem textsOf_writtenMetadata (s : MetadataSection) (key : String) :
    ((writtenMetadata namespaceName name edits).textsOf s).find? key =
      Entries.last? key (edits.filterMap (Edit.entry? s)) := by
  cases s <;> exact Entries.find?_ofList key _

private theorem writtenMetadata_entry (s : MetadataSection) (key value : String) :
    writtenMetadata namespaceName name (edits ++ [.entry s key value]) =
      (writtenMetadata namespaceName name edits).write s key value := by
  cases s <;> simp [writtenMetadata, ObjectMeta.write, Edit.entry?, Dictionary.ofList_append_singleton]

private theorem writtenMetadata_field {key : String} (value : Json) (hkey : key ∉ identity) :
    writtenMetadata namespaceName name (edits ++ [.field key value hkey]) =
      writtenMetadata namespaceName name edits := by
  have hnone (s : MetadataSection) : (edits ++ [Edit.field key value hkey]).filterMap (Edit.entry? s) =
      edits.filterMap (Edit.entry? s) := by
    rw [List.filterMap_append]
    exact List.append_nil _
  simp only [writtenMetadata, hnone]

end

theorem holds_built (type : ResourceType) (namespaceName : Option String) (name : String) (edits : List Edit) :
    (built type namespaceName name edits).Holds type (writtenMetadata namespaceName name edits)
      (edits.filterMap Edit.field?) := by
  induction edits using List.reverseRecOn with
  | nil => exact holds_new type namespaceName name
  | append_singleton edits e ih =>
    rw [built, List.foldl_append, List.filterMap_append]
    cases e with
    | entry s key value =>
      have hsame : edits.filterMap Edit.field? ++ [Edit.entry s key value].filterMap Edit.field? =
          edits.filterMap Edit.field? := List.append_nil _
      rw [writtenMetadata_entry, hsame]
      exact ih.write s key value
    | field key value hkey =>
      rw [writtenMetadata_field]
      exact ih.withField hkey value

/-- Metadata that stands in an object is what its record is. -/
theorem Holds.metadata_eq (h : o.Holds type m fields) :
    ∃ v, o.body.member? "metadata" = some v ∧ ObjectMeta.ofJson .json v = .ok m ∧ o.metadata = m := by
  obtain ⟨members, hmetadata, hstands⟩ := h.metadata
  exact ⟨_, hmetadata, hstands.ofJson, metadata_of_decoded hmetadata hstands.ofJson⟩

private theorem Holds.name_eq (h : o.Holds type m fields) : Item.name o = m.name := by
  obtain ⟨members, hmetadata, hstands⟩ := h.metadata
  exact (answersFrom hmetadata).name m.name hstands.name

private theorem Holds.namespaceName_eq (h : o.Holds type m fields) : Item.namespaceName o = m.namespaceName := by
  obtain ⟨members, hmetadata, hstands⟩ := h.metadata
  change o.metadataText? "namespace" = m.namespaceName
  rw [metadataText?_of_member hmetadata]
  change Entries.find? "namespace" members >>= Json.string? = _
  rw [hstands.namespaceName]
  cases m.namespaceName <;> rfl

/-- The whole object is decoded in its reduced shape, and that is the one to which it is reduced. -/
theorem Holds.ofJson_partial (h : o.Holds type m fields) :
    PartialObject.ofJson .json o.body = .ok (o.toPartial type) := by
  obtain ⟨v, hmember, hdecoded, hmetadata⟩ := h.metadata_eq
  obtain ⟨members, hbody, hfind⟩ := Json.eq_obj_of_member? hmember
  have hapiVersion := h.apiVersion
  have hkind := h.kind
  rw [hbody] at hapiVersion hkind ⊢
  simp only [Json.member?] at hapiVersion hkind
  simp only [PartialObject.ofJson, Json.asFlatRecord, Slots.defaulted_members, hfind, hdecoded, TypeMeta.ofSlots,
    Slots.required_members, hapiVersion, hkind, toPartial, hmetadata]
  rfl

/-- In whatever order an object is built up, it stays what it was begun as and holds what was last written in each
place. Its metadata is decoded, and the whole of it is decoded as the metadata to which it is reduced. -/
theorem built_holds_last_writes (type : ResourceType) (namespaceName : Option String) (name : String)
    (edits : List Edit) :
    let o := built type namespaceName name edits
    o.body.member? "apiVersion" = some (.str type.apiVersion) ∧ o.body.member? "kind" = some (.str type.kind) ∧
      Item.name o = name ∧ Item.namespaceName o = namespaceName ∧
      (∃ v, o.body.member? "metadata" = some v ∧ ObjectMeta.ofJson .json v = .ok o.metadata) ∧
      (∀ s key, (o.metadata.textsOf s).find? key = Entries.last? key (edits.filterMap (Edit.entry? s))) ∧
      (∀ key ∉ identity, o.body.member? key = Entries.last? key (edits.filterMap Edit.field?)) ∧
      PartialObject.ofJson .json o.body = .ok (o.toPartial type) := by
  intro o
  have h : o.Holds type (writtenMetadata namespaceName name edits) (edits.filterMap Edit.field?) :=
    holds_built type namespaceName name edits
  obtain ⟨v, hmember, hdecoded, hmetadata⟩ := h.metadata_eq
  refine ⟨h.apiVersion, h.kind, h.name_eq, h.namespaceName_eq, ⟨v, hmember, hmetadata ▸ hdecoded⟩, fun s key => ?_,
    h.fields, h.ofJson_partial⟩
  rw [hmetadata]
  exact textsOf_writtenMetadata namespaceName name edits s key

end Object

end Preflight

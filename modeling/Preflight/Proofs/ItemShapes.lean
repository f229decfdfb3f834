import Preflight.Proofs.Answers
import Preflight.Proofs.Codecs
import Preflight.Standard.Catalog

/-! # The two shapes of items
A workload check lists objects whole or reduced to their metadata. A whole object is asked for each part of its
metadata by itself, the reduced one has all of them decoded at once. Where the metadata is well formed the two give
one view of the object, and a check that sees its items through that view runs alike on either. -/
namespace Preflight

namespace Json

/-- All objects within the value have their members in the order of their keys, as those have that a cluster
holds. -/
inductive Ordered : Json → Prop
  | null : Ordered .null
  | bool (value : Bool) : Ordered (.bool value)
  | int (value : Int) : Ordered (.int value)
  | float (value : Decimal) : Ordered (.float value)
  | str (value : String) : Ordered (.str value)
  | arr {items : List Json} (hitems : ∀ v ∈ items, Ordered v) : Ordered (.arr items)
  | obj {members : List (String × Json)} (hkeys : Entries.Ascending members)
      (hmembers : ∀ m ∈ members, Ordered m.2) :
    Ordered (.obj members)

variable {v : Json} {key : String}

theorem Ordered.object {members : List (String × Json)} (h : ∀ m ∈ members, m.2.Ordered) :
    (Json.object members).Ordered :=
  .obj (Entries.ascending_ofList members) fun m hm => h m (Entries.mem_of_mem_ofList hm)

theorem Ordered.member? (h : v.Ordered) {w : Json} (hw : v.member? key = some w) : w.Ordered := by
  cases h with
  | obj hkeys hmembers => exact hmembers _ (Entries.mem_of_find? hw)
  | _ => cases hw

theorem string?_of_asString {s : String} (h : v.asString = .ok s) : v.string? = some s := by
  unfold asString at h
  split at h
  · exact congrArg some (Except.ok.inj h)
  · cases h

private theorem string?_of_asOption {o : Option String} (h : asOption asString v = .ok o) : v.string? = o := by
  unfold asOption at h
  split at h
  · exact Except.ok.inj h
  · obtain ⟨s, hs, ho⟩ := exists_of_bind_eq_ok ((bind_pure_comp some _).trans h)
    rw [string?_of_asString hs]
    exact Except.ok.inj ho

/-- Entries that are read keep their keys, and each has the text that stands under its key. -/
theorem entries_of_mapM {members : List (String × Json)} {entries : List (String × String)}
    (h : (members.mapM fun m => do
      let v ← asString m.2
      return (m.1, v)) = .ok entries) :
    entries.map Prod.fst = members.map Prod.fst ∧
      ∀ key, Entries.find? key entries = Entries.find? key members >>= string? := by
  induction members generalizing entries with
  | nil =>
    cases h
    exact ⟨rfl, fun _ => rfl⟩
  | cons m members ih =>
    rw [List.mapM_cons] at h
    obtain ⟨e, he, h⟩ := exists_of_bind_eq_ok h
    obtain ⟨rest, hrest, h⟩ := exists_of_bind_eq_ok h
    obtain ⟨text, htext, he⟩ := exists_of_bind_eq_ok he
    cases h
    cases he
    obtain ⟨hkeys, hfind⟩ := ih hrest
    refine ⟨congrArg (m.1 :: ·) hkeys, fun key => ?_⟩
    unfold Entries.find?
    split
    · exact (string?_of_asString htext).symm
    · exact hfind key

/-- A dictionary of texts has under each key what the object has from which it is read. -/
theorem find?_of_asDictionary (hv : v.Ordered) {d : Dictionary String} (h : asDictionary asString v = .ok d)
    (key : String) : d.find? key = v.member? key >>= string? := by
  cases hv with
  | obj hkeys hmembers =>
    obtain ⟨entries, hentries, h⟩ := exists_of_bind_eq_ok h
    obtain ⟨hsame, hfind⟩ := entries_of_mapM hentries
    have hascending : Entries.Ascending entries := by
      have hpairwise := List.pairwise_map.2 hkeys
      rw [← hsame] at hpairwise
      exact List.pairwise_map.1 hpairwise
    rw [← Except.ok.inj h]
    change Entries.find? key (Entries.ofList entries) = _
    rw [Entries.ofList_of_ascending hascending]
    exact hfind key
  | _ => cases h

end Json

namespace Slots

variable {ms : List (String × Json)} {field : String}

private theorem text_of_defaulted {s : String} (h : (members ms).defaulted field Json.asString "" = .ok s) :
    (Entries.find? field ms >>= Json.string?).getD "" = s := by
  rcases cases_of_defaulted h with ⟨hfind, rfl⟩ | ⟨v, hfind, hv⟩
  · rw [hfind]
    rfl
  · rw [hfind]
    exact congrArg (Option.getD · "") (Json.string?_of_asString hv)

private theorem text?_of_defaulted {o : Option String}
    (h : (members ms).defaulted field (Json.asOption Json.asString) none = .ok o) :
    Entries.find? field ms >>= Json.string? = o := by
  rcases cases_of_defaulted h with ⟨hfind, rfl⟩ | ⟨v, hfind, hv⟩
  · rw [hfind]
    rfl
  · rw [hfind]
    exact Json.string?_of_asOption hv

theorem entry?_of_defaulted (hms : (Json.obj ms).Ordered) {d : Dictionary String}
    (h : (members ms).defaulted field (Json.asDictionary Json.asString) Dictionary.empty = .ok d) (key : String) :
    Entries.find? field ms >>= Json.member? key >>= Json.string? = d.find? key := by
  rcases cases_of_defaulted h with ⟨hfind, rfl⟩ | ⟨v, hfind, hv⟩
  · rw [hfind]
    rfl
  · rw [hfind]
    exact (Json.find?_of_asDictionary (hms.member? hfind) hv key).symm

end Slots

structure ItemView where
  name : String
  namespaceName : Option String
  annotationOf : String → Option String
  labelOf : String → Option String

def Item.view {α : Type} [Item α] (item : α) : ItemView :=
  ⟨Item.name item, Item.namespaceName item, Item.annotationOf item, Item.labelOf item⟩

instance : Item ItemView where
  ofObject _ o := Item.view o
  name := ItemView.name
  namespaceName := ItemView.namespaceName
  annotationOf := ItemView.annotationOf
  labelOf := ItemView.labelOf

theorem Item.view_eq {α β : Type} [Item α] [Item β] {a : α} {b : β} (hname : Item.name a = Item.name b)
    (hnamespace : Item.namespaceName a = Item.namespaceName b)
    (hannotations : ∀ key, Item.annotationOf a key = Item.annotationOf b key)
    (hlabels : ∀ key, Item.labelOf a key = Item.labelOf b key) : Item.view a = Item.view b := by
  unfold Item.view
  rw [hname, hnamespace, funext hannotations, funext hlabels]

namespace Object

variable {o : Object}

/-- The metadata is absent, or an object that can be decoded as a whole. -/
def HasPlainMetadata (o : Object) : Prop :=
  o.body.member? "metadata" = none ∨
    ∃ members metadata, o.body.member? "metadata" = some (.obj members) ∧
      ObjectMeta.ofJson .json (.obj members) = .ok metadata

private theorem metadata_of_absent (h : o.body.member? "metadata" = none) : o.metadata = {} := by
  rw [metadata, h]
  rfl

theorem metadata_of_decoded {v : Json} {m : ObjectMeta} (h : o.body.member? "metadata" = some v)
    (hdecoded : ObjectMeta.ofJson .json v = .ok m) : o.metadata = m := by
  rw [metadata, h, Option.map_some, hdecoded]

theorem metadataText?_of_member {v : Json} (h : o.body.member? "metadata" = some v) (field : String) :
    o.metadataText? field = v.member? field >>= Json.string? := by
  rw [metadataText?, h]
  rfl

theorem entry?_of_member {v : Json} (h : o.body.member? "metadata" = some v) (sectionName key : String) :
    o.entry? sectionName key = v.member? sectionName >>= Json.member? key >>= Json.string? := by
  unfold entry?
  rw [h]
  rfl

theorem view_toPartial (hplain : o.HasPlainMetadata) (hordered : o.body.Ordered) (type : ResourceType) :
    Item.view (o.toPartial type) = Item.view o := by
  rcases hplain with habsent | ⟨members, m, hmember, hdecoded⟩
  · have hempty := metadata_of_absent habsent
    refine Item.view_eq ?_ ?_ (fun key => ?_) fun key => ?_
    · change o.metadata.name = (o.metadataText? "name").getD ""
      rw [hempty, metadataText?, habsent]
      rfl
    · change o.metadata.namespaceName = o.metadataText? "namespace"
      rw [hempty, metadataText?, habsent]
      rfl
    · change o.metadata.annotations.find? key = o.entry? "annotations" key
      rw [hempty, entry?, habsent]
      rfl
    · change o.metadata.labels.find? key = o.entry? "labels" key
      rw [hempty, entry?, habsent]
      rfl
  · have hmetadata := metadata_of_decoded hmember hdecoded
    have hmembers := hordered.member? hmember
    change ((Slots.members members).defaulted "name" Json.asString "" >>= _) = _ at hdecoded
    obtain ⟨name, hname, hdecoded⟩ := exists_of_bind_eq_ok hdecoded
    obtain ⟨namespaceName, hnamespace, hdecoded⟩ := exists_of_bind_eq_ok hdecoded
    obtain ⟨labels, hlabels, hdecoded⟩ := exists_of_bind_eq_ok hdecoded
    obtain ⟨annotations, hannotations, hdecoded⟩ := exists_of_bind_eq_ok hdecoded
    cases hdecoded
    refine Item.view_eq ?_ ?_ (fun key => ?_) fun key => ?_
    · change o.metadata.name = (o.metadataText? "name").getD ""
      rw [hmetadata, metadataText?_of_member hmember]
      exact (Slots.text_of_defaulted hname).symm
    · change o.metadata.namespaceName = o.metadataText? "namespace"
      rw [hmetadata, metadataText?_of_member hmember]
      exact (Slots.text?_of_defaulted hnamespace).symm
    · change o.metadata.annotations.find? key = o.entry? "annotations" key
      rw [hmetadata, entry?_of_member hmember]
      exact (Slots.entry?_of_defaulted hmembers hannotations key).symm
    · change o.metadata.labels.find? key = o.entry? "labels" key
      rw [hmetadata, entry?_of_member hmember]
      exact (Slots.entry?_of_defaulted hmembers hlabels key).symm

end Object

namespace WorkloadCheck

variable {α β : Type}

/-- The check that sees the items of a shape through their views, and lists objects in that shape. -/
def through (α : Type) [Item α] (c : WorkloadCheck ItemView) : WorkloadCheck α where
  about := c.about
  resource := c.resource
  options := c.options
  gate := c.gate
  filter item := c.filter (Item.view item)
  policy view finding := c.policy ⟨view.items.map Item.view, view.resource, view.upgrade⟩ finding

private theorem keep_map (filter : β → Except Fault Bool) (f : α → β) (items : List α) :
    keep filter (items.map f) = (keep (fun item => filter (f item)) items).map (List.map f) := by
  induction items with
  | nil => rfl
  | cons item items ih =>
    rw [List.map_cons, keep, keep, ih]
    cases filter (f item) with
    | error e => rfl
    | ok accepted =>
      cases keep (fun item => filter (f item)) items with
      | error e => rfl
      | ok kept => cases accepted <;> rfl

private theorem affect_map [Item α] (type : TypeMeta) (items : List α) (finding : Finding) :
    affect type (items.map Item.view) finding = affect type items finding := by
  unfold affect
  rw [List.map_map]
  simp only [ne_eq, List.map_eq_nil_iff]
  rfl

def evaluateOn [Item α] (c : WorkloadCheck α) (u : Upgrade) (objects : List Object) : Program Finding := do
  let items ← Program.ofExcept
    ((keep c.filter (objects.map (Item.ofObject c.resource))).mapError (.filter c.resource.text))
  let finding ← c.policy ⟨items, c.resource, u⟩ (c.countedFinding u items)
  return affect c.resource.typeMeta items finding

theorem evaluate_eq [Item α] (c : WorkloadCheck α) (u : Upgrade) :
    c.evaluate u = Program.listing ("listing " ++ c.resource.text) c.resource c.options >>= c.evaluateOn u := rfl

/-- On objects of which the shape gives the view that they give themselves, the shape does not matter. -/
theorem evaluateOn_through [Item α] (c : WorkloadCheck ItemView) (u : Upgrade) {objects : List Object}
    (h : ∀ o ∈ objects, Item.view (Item.ofObject c.resource o : α) = Item.view o) :
    (c.through α).evaluateOn u objects = c.evaluateOn u objects := by
  have hviews : objects.map (Item.ofObject c.resource : Object → ItemView) =
      (objects.map (Item.ofObject c.resource : Object → α)).map Item.view := by
    rw [List.map_map]
    exact List.map_congr_left fun o ho => (h o ho).symm
  unfold evaluateOn
  rw [hviews, keep_map c.filter Item.view]
  change (Program.ofExcept ((keep (fun item => c.filter (Item.view item))
    (objects.map (Item.ofObject c.resource : Object → α))).mapError (.filter c.resource.text)) >>= _) = _
  cases keep (fun item => c.filter (Item.view item)) (objects.map (Item.ofObject c.resource : Object → α)) with
  | error e => rfl
  | ok items =>
    change (c.policy ⟨items.map Item.view, c.resource, u⟩ ((c.through α).countedFinding u items) >>= _) =
      (c.policy ⟨items.map Item.view, c.resource, u⟩ (c.countedFinding u (items.map Item.view)) >>= _)
    simp only [countedFinding, List.length_map, affect_map]
    rfl

/-- Two evaluations that list the same objects and go on from them alike have one run. -/
theorem run_listing_congr {cluster : Cluster} {type : ResourceType} {options : ListOptions} (context : String)
    {f g : List Object → Program Finding} (h : ∀ objects, orEmpty (cluster.list type options) = .ok objects →
      f objects = g objects) (position : Nat) (stop : Option Stop) (now : Nat) :
    (Program.listing context type options >>= f).run cluster position stop now =
      (Program.listing context type options >>= g).run cluster position stop now := by
  have hnext : (Program.readIn context (orEmpty (cluster.list type options)) >>= f) =
      (Program.readIn context (orEmpty (cluster.list type options)) >>= g) := by
    cases hlist : orEmpty (cluster.list type options) with
    | error e => rfl
    | ok objects => exact h objects hlist
  change (Program.list type options
    fun r => Program.readIn context (orEmpty r) >>= f).run cluster position stop now =
    (Program.list type options fun r => Program.readIn context (orEmpty r) >>= g).run cluster position stop now
  simp only [Program.run, hnext]

private theorem mem_objectsOf_of_listed {cluster : Cluster} {type : ResourceType} {options : ListOptions}
    {objects : List Object} (h : orEmpty (cluster.list type options) = .ok objects) {o : Object}
    (ho : o ∈ objects) :
    o ∈ cluster.inventory.objectsOf type := by
  rcases orEmpty_eq_ok_iff.1 h with hlist | ⟨rfl, -⟩
  · rw [Cluster.eq_filter_of_list hlist] at ho
    exact (List.mem_filter.1 ho).1
  · cases ho

/-- A check that sees its items through their views does not tell one shape from the other: on a cluster whose
objects of the type have well-formed metadata, if any, it runs alike on both, with one result and one fault, and
however the run is cancelled. -/
theorem run_through_shapes (c : WorkloadCheck ItemView) (cluster : Cluster)
    (hplain : ∀ o ∈ cluster.inventory.objectsOf c.resource, o.HasPlainMetadata)
    (hordered : ∀ o ∈ cluster.inventory.objectsOf c.resource, o.body.Ordered) (u : Upgrade) (position : Nat)
    (stop : Option Stop) (now : Nat) :
    ((c.through Object).evaluate u).run cluster position stop now =
      ((c.through PartialObject).evaluate u).run cluster position stop now := by
  rw [evaluate_eq, evaluate_eq]
  refine run_listing_congr _ (fun objects hobjects => ?_) position stop now
  rw [evaluateOn_through c u fun o _ => rfl, evaluateOn_through c u fun o ho => ?_]
  have hmem := mem_objectsOf_of_listed hobjects ho
  exact Object.view_toPartial (hplain o hmem) (hordered o hmem) c.resource

def ofTeam : WorkloadCheck ItemView where
  about := Standard.notebooks.about
  resource := .notebook
  filter item := .ok (item.annotationOf "team" = some "a")
  policy := Standard.countItems .advisory "notebooks of the team"

def teamNotebooks : Cluster where
  inventory :=
    { objects :=
        [(.notebook, ⟨Json.object [("metadata", Json.object [("name", .str "lab"), ("namespace", .str "study"),
            ("annotations", Json.object [("team", .str "a")])])]⟩),
          (.notebook, ⟨Json.object [("metadata", Json.object [("name", .str "desk")])]⟩),
          (.notebook, ⟨Json.object []⟩)]
      installed := [.notebook] }

theorem ofTeam_run_through_shapes :
    (∀ o ∈ teamNotebooks.inventory.objectsOf .notebook, o.HasPlainMetadata) ∧
      (∀ o ∈ teamNotebooks.inventory.objectsOf .notebook, o.body.Ordered) ∧
      ((ofTeam.through Object).evaluate {}).run teamNotebooks 0 none 0 =
        ((ofTeam.through PartialObject).evaluate {}).run teamNotebooks 0 none 0 ∧
      ∃ f : Finding, (((ofTeam.through Object).evaluate {}).run teamNotebooks 0 none 0).result = .ok f ∧
        f.affectedObjects.map AffectedObject.text = ["Notebook/study/lab"] := by
  have hplain : ∀ o ∈ teamNotebooks.inventory.objectsOf .notebook, o.HasPlainMetadata := by
    change ∀ o ∈ [_, _, _], _
    simp only [List.forall_mem_cons]
    exact ⟨.inr ⟨_, _, rfl, rfl⟩, .inr ⟨_, _, rfl, rfl⟩, .inl rfl, nofun⟩
  have hordered : ∀ o ∈ teamNotebooks.inventory.objectsOf .notebook, o.body.Ordered := by
    change ∀ o ∈ [_, _, _], _
    simp only [List.forall_mem_cons]
    refine ⟨.object ?_, .object ?_, .object nofun, nofun⟩
    · simp only [List.forall_mem_cons]
      refine ⟨.object ?_, nofun⟩
      simp only [List.forall_mem_cons]
      exact ⟨.str _, .str _, .object (List.forall_mem_singleton.2 (.str _)), nofun⟩
    · exact List.forall_mem_singleton.2 (.object (List.forall_mem_singleton.2 (.str _)))
  refine ⟨hplain, hordered, ?_, _, rfl, rfl⟩
  exact run_through_shapes ofTeam teamNotebooks hplain hordered {} 0 none 0

end WorkloadCheck

end Preflight

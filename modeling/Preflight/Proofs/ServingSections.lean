import Preflight.Proofs.Codecs
import Preflight.Proofs.ComponentCourses
import Preflight.Proofs.ItemShapes
import Preflight.Proofs.ServingModes

/-! # Sections of the serving modes
The policy on serving modes decodes records, and the protocol that hands over to it follows paths. Where the
sections on the way to a mode are objects, if they are there at all, the two read one state. They part where a
section is written as a list of its fields or is no record, and where a state is written as an object. -/
namespace Preflight

namespace Json

variable {α : Type}

/-- What a record has for a field: in an object under its name, in an array in its place. -/
def part? (fields : List String) (field : String) : Json → Option Json
  | .obj members => Entries.find? field members
  | .arr elements => elements[fields.idxOf field]?
  | _ => none

/-- A record with some fields is written as an object, or as an array with no more elements than there are
fields. -/
def IsRecord (fields : List String) : Json → Prop
  | .obj _ => True
  | .arr elements => elements.length ≤ fields.length
  | _ => False

/-- What may be left out of a record: absent or `null` it stands for nothing. -/
inductive Reads (Form : Json → α → Prop) (nothing : α) : Option Json → α → Prop
  | absent : Reads Form nothing none nothing
  | null : Reads Form nothing (some .null) nothing
  | present {v : Json} {a : α} (h : Form v a) : Reads Form nothing (some v) a

/-- A record of which one field matters. -/
def RecordOf (fields : List String) (field : String) (Form : Json → α → Prop) (nothing : α) (v : Json)
    (a : α) : Prop :=
  v.IsRecord fields ∧ Reads Form nothing (v.part? fields field) a

variable {Form : Json → α → Prop} {nothing a : α}

theorem reads_none_iff : Reads Form nothing none a ↔ a = nothing := by
  constructor
  · intro h
    cases h
    rfl
  · rintro rfl
    exact .absent

theorem reads_some_iff {v : Json} (hv : v ≠ .null) : Reads Form nothing (some v) a ↔ Form v a := by
  constructor
  · intro h
    cases h with
    | null => exact absurd rfl hv
    | present h => exact h
  · exact .present

def slots? (record : String) (fields : List String) : Json → Option Slots
  | .obj members => some (.members members)
  | .arr elements => some (.elements record fields elements)
  | _ => none

theorem asRecord_eq_ok_iff {record : String} {fields : List String} {body : Slots → Decoded α} {v : Json} :
    v.asRecord .json record fields body = .ok a ↔
      v.IsRecord fields ∧ ∃ s, v.slots? record fields = some s ∧ body s = .ok a := by
  cases v with
  | obj members => simp [asRecord, IsRecord, slots?]
  | arr elements =>
    simp only [asRecord, IsRecord, slots?, Option.some.injEq, exists_eq_left']
    constructor
    · intro h
      obtain ⟨b, hb, h⟩ := exists_of_bind_eq_ok h
      by_cases hlength : fields.length < elements.length
      · simp [Dialect.json, hlength] at h
        cases h
      · simp [Dialect.json, hlength] at h
        cases h
        exact ⟨by omega, hb⟩
    · rintro ⟨hlength, hbody⟩
      rw [hbody]
      simp [Dialect.json, Nat.not_lt.2 hlength]
  | _ => simp [asRecord, IsRecord]

private theorem defaulted_of_slots {record : String} {fields : List String} {v : Json} {s : Slots}
    (hs : v.slots? record fields = some s) (field : String) (value : Json → Decoded α) (default : α) :
    s.defaulted field value default = match v.part? fields field with
      | some w => value w
      | none => .ok default := by
  cases v with
  | obj members =>
    cases hs
    exact Slots.defaulted_members members field value default
  | arr elements =>
    cases hs
    simp only [Slots.defaulted, Slots.find, part?]
    cases elements[fields.idxOf field]? <;> rfl
  | _ => cases hs

/-- A part that is not `null` is decoded just if it has the form for which its decoder stands. -/
theorem defaulted_eq_ok_iff {record : String} {fields : List String} {v : Json} {s : Slots} {field : String}
    {value : Json → Decoded α} (hs : v.slots? record fields = some s) (hnull : v.part? fields field ≠ some .null)
    (hvalue : ∀ w, v.part? fields field = some w → (value w = .ok a ↔ Form w a)) :
    s.defaulted field value nothing = .ok a ↔ Reads Form nothing (v.part? fields field) a := by
  rw [defaulted_of_slots hs]
  cases hpart : v.part? fields field with
  | none =>
    rw [reads_none_iff]
    exact ⟨fun h => (Except.ok.inj h).symm, fun h => congrArg Except.ok h.symm⟩
  | some w =>
    have hw : w ≠ .null := fun heq => hnull (heq ▸ hpart)
    rw [reads_some_iff hw]
    exact hvalue w hpart

theorem exists_slots_of_isRecord (record : String) {fields : List String} {v : Json} (h : v.IsRecord fields) :
    ∃ s, v.slots? record fields = some s := by
  cases v with
  | obj members => exact ⟨_, rfl⟩
  | arr elements => exact ⟨_, rfl⟩
  | _ => cases h

theorem asRecord_defaulted_eq_ok_iff {record : String} {fields : List String} {v : Json} {field : String}
    {value : Json → Decoded α} (hnull : v.part? fields field ≠ some .null)
    (hvalue : ∀ w, v.part? fields field = some w → (value w = .ok a ↔ Form w a)) :
    v.asRecord .json record fields (fun s => s.defaulted field value nothing) = .ok a ↔
      RecordOf fields field Form nothing v a := by
  rw [asRecord_eq_ok_iff]
  apply and_congr_right
  intro hrecord
  obtain ⟨s, hs⟩ := exists_slots_of_isRecord record hrecord
  simp only [hs, Option.some.injEq, exists_eq_left', defaulted_eq_ok_iff hs hnull hvalue]

end Json

namespace ManagementState

/-- The two ways of writing a state: its name, or an object that has this name alone and `null` for it. -/
inductive Written : Json → ManagementState → Prop
  | name (state : ManagementState) : Written (.str state.name) state
  | alone (state : ManagementState) : Written (.obj [(state.name, .null)]) state

theorem findVariant_eq_ok_iff {name : String} {state : ManagementState} :
    Json.findVariant (all.map fun s => (s.name, s)) name = .ok state ↔ name = state.name := by
  constructor
  · intro h
    unfold Json.findVariant at h
    split at h
    · next found hfound =>
      cases h
      have hmem := Entries.mem_of_find? hfound
      obtain ⟨s, -, hs⟩ := List.mem_map.1 hmem
      cases hs
      rfl
    · cases h
  · rintro rfl
    cases state <;> rfl

theorem ofJson_eq_ok_iff {v : Json} {state : ManagementState} : ofJson .json v = .ok state ↔ Written v state := by
  constructor
  · intro h
    unfold ofJson Json.asVariant at h
    split at h
    · next name =>
      rw [findVariant_eq_ok_iff.1 h]
      exact .name state
    · next name value =>
      obtain ⟨found, hfound, h⟩ := exists_of_bind_eq_ok h
      rw [findVariant_eq_ok_iff.1 hfound]
      cases value with
      | null =>
        cases h
        exact .alone state
      | _ => cases h
    · cases h
    · cases h
  · intro h
    cases h with
    | name => exact findVariant_eq_ok_iff.2 rfl
    | alone => cases state <;> rfl

end ManagementState

namespace ServingModes

/-- What stands for the state of a mode. Nothing stands for no state. -/
def StateForm (v : Json) (state : Option ManagementState) : Prop :=
  ∃ s, state = some s ∧ ManagementState.Written v s

theorem asOption_eq_ok_iff {v : Json} {state : Option ManagementState} :
    Json.asOption (ManagementState.ofJson .json) v = .ok state ↔ Json.Reads StateForm none (some v) state := by
  by_cases hnull : v = .null
  · subst hnull
    constructor
    · intro h
      cases h
      exact .null
    · intro h
      cases h with
      | null => rfl
      | present h =>
        obtain ⟨s, -, hs⟩ := h
        cases hs
  · rw [Json.reads_some_iff hnull]
    have hsome : Json.asOption (ManagementState.ofJson .json) v = some <$> ManagementState.ofJson .json v := by
      cases v with
      | null => exact absurd rfl hnull
      | _ => rfl
    rw [hsome]
    constructor
    · intro h
      obtain ⟨s, hs, h⟩ := exists_of_bind_eq_ok ((bind_pure_comp some _).trans h)
      exact ⟨s, (Except.ok.inj h).symm, ManagementState.ofJson_eq_ok_iff.1 hs⟩
    · rintro ⟨s, rfl, hs⟩
      rw [ManagementState.ofJson_eq_ok_iff.2 hs]
      rfl

def componentFields : List String := ["kserve", "modelmeshserving"]

/-- A component of which the state matters. An array without elements has no place for it. -/
def ModeForm (v : Json) (state : Option ManagementState) : Prop :=
  v ≠ .arr [] ∧ v.RecordOf ["managementState"] "managementState" StateForm none state

def KserveForm : Json → Option ManagementState → Prop := Json.RecordOf ["serving"] "serving" ModeForm none

def ComponentsForm (v : Json) (modes : States) : Prop :=
  v.RecordOf componentFields "kserve" KserveForm none modes.serverless ∧
    v.RecordOf componentFields "modelmeshserving" ModeForm none modes.modelMesh

def SpecForm : Json → States → Prop := Json.RecordOf ["components"] "components" ComponentsForm {}

def BodyForm : Json → States → Prop := Json.RecordOf ["spec"] "spec" SpecForm {}

theorem managedComponent_eq_ok_iff {v : Json} {state : Option ManagementState} :
    managedComponent v = .ok state ↔ ModeForm v state := by
  cases v with
  | obj members =>
    simp only [managedComponent, Json.asRecord, Slots.optional, Slots.defaulted_members, ModeForm, Json.RecordOf,
      Json.IsRecord, Json.part?, ne_eq, reduceCtorEq, not_false_eq_true, true_and]
    cases Entries.find? "managementState" members with
    | none =>
      rw [Json.reads_none_iff]
      exact ⟨fun h => (Except.ok.inj h).symm, fun h => congrArg Except.ok h.symm⟩
    | some w => exact asOption_eq_ok_iff
  | arr elements =>
    rw [managedComponent, Json.asRecord_eq_ok_iff]
    cases elements with
    | nil =>
      constructor
      · rintro ⟨-, s, hs, h⟩
        cases hs
        cases h
      · exact fun h => absurd rfl h.1
    | cons w rest =>
      have hplace : Json.arr (w :: rest) ≠ .arr [] := by simp
      constructor
      · rintro ⟨hrecord, s, hs, h⟩
        cases hs
        exact ⟨hplace, hrecord, asOption_eq_ok_iff.1 h⟩
      · rintro ⟨-, hrecord, h⟩
        exact ⟨hrecord, _, rfl, asOption_eq_ok_iff.2 h⟩
  | _ => simp [managedComponent, Json.asRecord, ModeForm, Json.RecordOf, Json.IsRecord]

private theorem kserveComponent_eq_ok_iff {v : Json} {state : Option ManagementState}
    (hserving : v.part? ["serving"] "serving" ≠ some .null) : kserveComponent v = .ok state ↔ KserveForm v state :=
  Json.asRecord_defaulted_eq_ok_iff hserving fun _ _ => managedComponent_eq_ok_iff

private theorem components_eq_ok_iff {v : Json} {modes : States}
    (hkserve : v.part? componentFields "kserve" ≠ some .null)
    (hserving : v.part? componentFields "kserve" >>= Json.part? ["serving"] "serving" ≠ some .null)
    (hmodelMesh : v.part? componentFields "modelmeshserving" ≠ some .null) :
    components v = .ok modes ↔ ComponentsForm v modes := by
  have hvalue (state : Option ManagementState) (w : Json) (hw : v.part? componentFields "kserve" = some w) :
      kserveComponent w = .ok state ↔ KserveForm w state := by
    rw [hw] at hserving
    exact kserveComponent_eq_ok_iff hserving
  rw [components, Json.asRecord_eq_ok_iff, ComponentsForm, Json.RecordOf, Json.RecordOf, ← and_and_left]
  apply and_congr_right
  intro hrecord
  obtain ⟨s, hs⟩ : ∃ s, v.slots? "ServingModeStates" componentFields = some s :=
    Json.exists_slots_of_isRecord _ hrecord
  change (∃ s, v.slots? "ServingModeStates" componentFields = some s ∧ _) ↔ _
  rw [← Json.defaulted_eq_ok_iff hs hkserve (hvalue modes.serverless),
    ← Json.defaulted_eq_ok_iff hs hmodelMesh fun _ _ => managedComponent_eq_ok_iff]
  constructor
  · rintro ⟨s', hs', h⟩
    cases hs'.symm.trans hs
    obtain ⟨serverless, hserverless, h⟩ := exists_of_bind_eq_ok h
    obtain ⟨modelMesh, hmodelMesh, h⟩ := exists_of_bind_eq_ok h
    cases h
    exact ⟨hserverless, hmodelMesh⟩
  · rintro ⟨hserverless, hmodelMesh⟩
    refine ⟨s, hs, ?_⟩
    rw [hserverless]
    change (s.defaulted "modelmeshserving" managedComponent none >>= _) = _
    rw [hmodelMesh]
    rfl

/-- The sections on the way to the modes and the two that hold them, as far as there are any. -/
def sections (body : Json) : List (Option Json) :=
  let spec := body.part? ["spec"] "spec"
  let components := spec >>= Json.part? ["components"] "components"
  let kserve := components >>= Json.part? componentFields "kserve"
  let serving := kserve >>= Json.part? ["serving"] "serving"
  let modelMesh := components >>= Json.part? componentFields "modelmeshserving"
  [spec, components, kserve, serving, modelMesh]

/-- Without a section that is `null`, decoding succeeds just on what has the form of a record all over. -/
theorem states_eq_ok_iff {body : Json} {modes : States} (hnull : some .null ∉ sections body) :
    states body = .ok modes ↔ BodyForm body modes := by
  simp only [sections, List.mem_cons, List.not_mem_nil, or_false, not_or] at hnull
  obtain ⟨hspec, hcomponents, hkserve, hserving, hmodelMesh⟩ := hnull
  refine Json.asRecord_defaulted_eq_ok_iff (Ne.symm hspec) fun v hv => ?_
  rw [hv] at hcomponents hkserve hserving hmodelMesh
  refine Json.asRecord_defaulted_eq_ok_iff (Ne.symm hcomponents) fun w hw => ?_
  simp only [Option.bind_eq_bind, Option.bind_some, hw] at hkserve hserving hmodelMesh
  exact components_eq_ok_iff (Ne.symm hkserve) (Ne.symm hserving) (Ne.symm hmodelMesh)

section

variable {α : Type} {Form : Json → α → Prop} {nothing a : α} {found : Option Json}

/-- What is read as a record is read where its field leads, if it is an object or is not there. -/
theorem reads_record_iff {Record : Json → α → Prop} {fields : List String} {field : String}
    (hrecord : ∀ members a, Record (.obj members) a ↔
      Json.Reads Form nothing ((Json.obj members).part? fields field) a)
    (h : ∀ v, found = some v → ∃ members, v = .obj members) :
    Json.Reads Record nothing found a ↔ Json.Reads Form nothing (found >>= Json.part? fields field) a := by
  cases found with
  | none => rw [Json.reads_none_iff, Option.bind_eq_bind, Option.bind_none, Json.reads_none_iff]
  | some v =>
    obtain ⟨members, rfl⟩ := h v rfl
    have hobject : Json.obj members ≠ .null := nofun
    rw [Json.reads_some_iff hobject]
    exact hrecord members a

theorem recordOf_obj_iff {fields : List String} {field : String} (members : List (String × Json)) (a : α) :
    (Json.obj members).RecordOf fields field Form nothing a ↔
      Json.Reads Form nothing ((Json.obj members).part? fields field) a :=
  and_iff_right trivial

theorem modeForm_obj_iff (members : List (String × Json)) (state : Option ManagementState) :
    ModeForm (.obj members) state ↔
      Json.Reads StateForm none ((Json.obj members).part? ["managementState"] "managementState") state :=
  (and_iff_right nofun).trans (recordOf_obj_iff members state)

private theorem reads_componentsForm_iff {modes : States} (h : ∀ v, found = some v → ∃ members, v = .obj members) :
    Json.Reads ComponentsForm {} found modes ↔
      Json.Reads KserveForm none (found >>= Json.part? componentFields "kserve") modes.serverless ∧
        Json.Reads ModeForm none (found >>= Json.part? componentFields "modelmeshserving") modes.modelMesh := by
  cases found with
  | none =>
    simp only [Json.reads_none_iff, Option.bind_eq_bind, Option.bind_none]
    constructor
    · rintro rfl
      exact ⟨rfl, rfl⟩
    · rintro ⟨hserverless, hmodelMesh⟩
      cases modes
      cases hserverless
      cases hmodelMesh
      rfl
  | some v =>
    obtain ⟨members, rfl⟩ := h v rfl
    have hobject : Json.obj members ≠ .null := nofun
    rw [Json.reads_some_iff hobject, ComponentsForm, recordOf_obj_iff, recordOf_obj_iff]
    rfl

/-- A part of an object is where a path goes on by its name. -/
theorem bind_part?_eq_walk? {p : List String} {body : Json} {name : String} (hname : FieldPath.index? name = none)
    (h : ∀ v, FieldPath.walk? p body = some v → ∃ members, v = .obj members) (fields : List String) :
    FieldPath.walk? p body >>= Json.part? fields name = FieldPath.walk? (p ++ [name]) body := by
  rw [FieldPath.walk?_append]
  cases hfound : FieldPath.walk? p body with
  | none => rfl
  | some v =>
    obtain ⟨members, rfl⟩ := h v hfound
    exact (FieldPath.walk?_singleton hname (.obj members)).symm

/-- Below a path where nothing but objects stand, a record is read where the path goes on to its field. -/
theorem reads_walk?_iff {Record : Json → α → Prop} {fields p : List String} {name : String} {body : Json}
    (hname : FieldPath.index? name = none)
    (hrecord : ∀ members a, Record (.obj members) a ↔
      Json.Reads Form nothing ((Json.obj members).part? fields name) a)
    (h : ∀ v, FieldPath.walk? p body = some v → ∃ members, v = .obj members) :
    Json.Reads Record nothing (FieldPath.walk? p body) a ↔
      Json.Reads Form nothing (FieldPath.walk? (p ++ [name]) body) a := by
  rw [reads_record_iff hrecord h, bind_part?_eq_walk? hname h]

end

def sectionPaths : List (List String) :=
  [["spec"], ["spec", "components"], ["spec", "components", "kserve"], serverlessPath.segments,
    modelMeshPath.segments]

variable {o : Object}

private theorem sections_eq_walks (hbody : ∃ members, o.body = .obj members)
    (hsections : ∀ v, some v ∈ sections o.body → ∃ members, v = .obj members) :
    sections o.body = sectionPaths.map fun p => FieldPath.walk? p o.body := by
  have hspec : o.body.part? ["spec"] "spec" = FieldPath.walk? ["spec"] o.body :=
    bind_part?_eq_walk? (p := []) (by decide) (fun v hv => Option.some.inj hv ▸ hbody) ["spec"]
  simp only [sections, hspec, List.mem_cons, List.not_mem_nil, or_false] at hsections ⊢
  -- Each section is an object if it is there, so the path to it goes on to the next ones.
  have hcomponents : FieldPath.walk? ["spec"] o.body >>= Json.part? ["components"] "components" =
      FieldPath.walk? ["spec", "components"] o.body :=
    bind_part?_eq_walk? (by decide) (fun v hv => hsections v (.inl hv.symm)) _
  simp only [hcomponents] at hsections ⊢
  have hin (name : String) (hname : FieldPath.index? name = none) :
      FieldPath.walk? ["spec", "components"] o.body >>= Json.part? componentFields name =
        FieldPath.walk? ["spec", "components", name] o.body :=
    bind_part?_eq_walk? hname (fun v hv => hsections v (.inr (.inl hv.symm))) _
  simp only [hin "kserve" (by decide), hin "modelmeshserving" (by decide)] at hsections ⊢
  have hserving : FieldPath.walk? ["spec", "components", "kserve"] o.body >>= Json.part? ["serving"] "serving" =
      FieldPath.walk? serverlessPath.segments o.body :=
    bind_part?_eq_walk? (by decide) (fun v hv => hsections v (.inr (.inr (.inl hv.symm)))) _
  rw [hserving]
  rfl

/-- In a body whose sections are objects, as far as there are any, the states stand where their paths lead. -/
theorem bodyForm_iff_of_objects {modes : States} (hbody : ∃ members, o.body = .obj members)
    (hsections : ∀ v, some v ∈ sections o.body → ∃ members, v = .obj members) :
    BodyForm o.body modes ↔
      Json.Reads StateForm none (FieldPath.walk? (stateUnder serverlessPath).segments o.body) modes.serverless ∧
        Json.Reads StateForm none (FieldPath.walk? (stateUnder modelMeshPath).segments o.body) modes.modelMesh := by
  have hobject (p : List String) (hp : p ∈ sectionPaths) (v : Json) (hv : FieldPath.walk? p o.body = some v) :
      ∃ members, v = .obj members := by
    apply hsections
    rw [sections_eq_walks hbody hsections]
    exact List.mem_map.2 ⟨p, hp, hv⟩
  have hcomponents := hobject ["spec", "components"] (by decide)
  calc BodyForm o.body modes
    _ ↔ Json.Reads BodyForm {} (FieldPath.walk? [] o.body) modes := by
      obtain ⟨root, hroot⟩ := hbody
      have hobject : Json.obj root ≠ .null := nofun
      rw [hroot]
      exact (Json.reads_some_iff hobject).symm
    _ ↔ Json.Reads SpecForm {} (FieldPath.walk? ["spec"] o.body) modes :=
      reads_walk?_iff (by decide) recordOf_obj_iff fun v hv => Option.some.inj hv ▸ hbody
    _ ↔ Json.Reads ComponentsForm {} (FieldPath.walk? ["spec", "components"] o.body) modes :=
      reads_walk?_iff (by decide) recordOf_obj_iff (hobject _ (by decide))
    _ ↔ Json.Reads KserveForm none (FieldPath.walk? ["spec", "components", "kserve"] o.body) modes.serverless ∧
        Json.Reads ModeForm none (FieldPath.walk? modelMeshPath.segments o.body) modes.modelMesh := by
      rw [reads_componentsForm_iff hcomponents, bind_part?_eq_walk? (by decide) hcomponents,
        bind_part?_eq_walk? (by decide) hcomponents]
      rfl
    _ ↔ Json.Reads ModeForm none (FieldPath.walk? serverlessPath.segments o.body) modes.serverless ∧
        Json.Reads ModeForm none (FieldPath.walk? modelMeshPath.segments o.body) modes.modelMesh :=
      and_congr_left' (reads_walk?_iff (by decide) recordOf_obj_iff (hobject _ (by decide)))
    _ ↔ _ :=
      and_congr (reads_walk?_iff (by decide) modeForm_obj_iff (hobject _ (by decide)))
        (reads_walk?_iff (by decide) modeForm_obj_iff (hobject _ (by decide)))

def readStateUnder (c : ComponentCheck) (p : FieldPath) (o : Object) : Except Fault ManagementState :=
  { c with statePath := stateUnder p }.readState o

/-- What is no object stands for the state that the protocol reads from it, where no state counts as removed. -/
theorem exists_reads_iff {found : Option Json} (hfound : ∀ members, found ≠ some (.obj members))
    {component : String} {state : ManagementState} :
    (∃ state?, Json.Reads StateForm none found state? ∧ state?.getD .removed = state) ↔
      ManagementState.ReadFrom component found (.ok state) := by
  constructor
  · rintro ⟨state?, h, rfl⟩
    cases h with
    | absent => exact .missing
    | null => exact .null
    | present h =>
      obtain ⟨s, rfl, hs⟩ := h
      cases hs with
      | name => exact .named s
      | alone => exact absurd rfl (hfound _)
  · intro h
    cases h with
    | missing => exact ⟨none, .absent, rfl⟩
    | null => exact ⟨none, .null, rfl⟩
    | named => exact ⟨some state, .present ⟨state, rfl, .name state⟩, rfl⟩

theorem exists_reads_iff_readStateUnder {p : FieldPath} (c : ComponentCheck)
    (hp : ∀ members, o.get? (stateUnder p) ≠ some (.obj members)) {state : ManagementState} :
    (∃ state?, Json.Reads StateForm none (FieldPath.walk? (stateUnder p).segments o.body) state? ∧
      state?.getD .removed = state) ↔ readStateUnder c p o = .ok state := by
  have hfound (members : List (String × Json)) :
      FieldPath.walk? (stateUnder p).segments o.body ≠ some (.obj members) :=
    fun h => hp members (FieldPath.lookup_of_walk? h nofun)
  exact (exists_reads_iff hfound).trans (ComponentCheck.readFrom_iff (c := { c with statePath := stateUnder p }))

def stated (finding : Finding) (modes : States) : Finding :=
  (finding.state (modeCondition serverlessMode "KServe Serverless" modes.serverless)).state
    (modeCondition modelMeshMode "ModelMesh" modes.modelMesh)

theorem stated_getD (finding : Finding) (serverless modelMesh : Option ManagementState) :
    stated finding ⟨serverless, modelMesh⟩ =
      stated finding ⟨some (serverless.getD .removed), some (modelMesh.getD .removed)⟩ := by
  cases serverless <;> cases modelMesh <;> rfl

theorem policy_eq_done_iff {view : ComponentView} {finding f : Finding} :
    policy view finding = .done f ↔ ∃ modes, states view.singleton.body = .ok modes ∧ f = stated finding modes := by
  unfold policy
  cases states view.singleton.body with
  | error e => exact ⟨nofun, fun ⟨modes, h, _⟩ => nomatch h⟩
  | ok modes =>
    constructor
    · intro h
      exact ⟨modes, rfl, (Program.done.inj h).symm⟩
    · rintro ⟨_, h, rfl⟩
      cases h
      rfl

/-- A policy that does not come to an end with both conditions fails on the object that it cannot decode. -/
theorem policy_done_or_fail (view : ComponentView) (finding : Finding) :
    (∃ f, policy view finding = .done f) ∨
      ∃ e, policy view finding = .fail (.undecodable ("DataScienceCluster " ++ Item.name view.singleton) e) := by
  unfold policy
  cases states view.singleton.body with
  | error e => exact .inr ⟨e, rfl⟩
  | ok modes => exact .inl ⟨_, rfl⟩

/-- The policy succeeds on an object just if the protocol reads a state for each mode, and states the conditions for
these two states. -/
def ReadsAlike (o : Object) : Prop :=
  ∀ (c : ComponentCheck) (view : ComponentView) (finding : Finding), view.singleton = o →
    ∀ f, policy view finding = .done f ↔ ∃ serverless modelMesh,
      readStateUnder c serverlessPath o = .ok serverless ∧ readStateUnder c modelMeshPath o = .ok modelMesh ∧
        f = stated finding ⟨some serverless, some modelMesh⟩

private theorem readsAlike_of_objects (hbody : ∃ members, o.body = .obj members)
    (hsections : ∀ v, some v ∈ sections o.body → ∃ members, v = .obj members)
    (hstates : ∀ p ∈ [serverlessPath, modelMeshPath], ∀ members, o.get? (stateUnder p) ≠ some (.obj members)) :
    ReadsAlike o := by
  rintro c view finding rfl f
  have hnull : some .null ∉ sections view.singleton.body := fun h => by
    obtain ⟨members, hmembers⟩ := hsections .null h
    cases hmembers
  have hserverless := hstates serverlessPath (.head _)
  have hmodelMesh := hstates modelMeshPath (.tail _ (.head _))
  simp only [policy_eq_done_iff, states_eq_ok_iff hnull, bodyForm_iff_of_objects hbody hsections,
    ← exists_reads_iff_readStateUnder c hserverless, ← exists_reads_iff_readStateUnder c hmodelMesh]
  constructor
  · rintro ⟨⟨serverless?, modelMesh?⟩, ⟨hs, hm⟩, rfl⟩
    exact ⟨_, _, ⟨serverless?, hs, rfl⟩, ⟨modelMesh?, hm, rfl⟩, stated_getD finding serverless? modelMesh?⟩
  · rintro ⟨_, _, ⟨serverless?, hs, rfl⟩, ⟨modelMesh?, hm, rfl⟩, rfl⟩
    exact ⟨⟨serverless?, modelMesh?⟩, ⟨hs, hm⟩, (stated_getD finding serverless? modelMesh?).symm⟩

/-- If the sections of a body are objects, as far as there are any, and no state is one, then the policy and the
protocol read the modes alike. On any body without a section that is `null` the policy reads what has the form of a
record all over, and where it does not succeed it fails on the object. -/
theorem modes_read_by_sections (o : Object) (hbody : ∃ members, o.body = .obj members) :
    ((∀ v, some v ∈ sections o.body → ∃ members, v = .obj members) →
      (∀ p ∈ [serverlessPath, modelMeshPath], ∀ members, o.get? (stateUnder p) ≠ some (.obj members)) →
      ReadsAlike o) ∧
      ∀ (view : ComponentView) (finding : Finding), view.singleton = o →
        (some .null ∉ sections o.body → ∀ f, policy view finding = .done f ↔
          ∃ modes, BodyForm o.body modes ∧ f = stated finding modes) ∧
          ((∃ f, policy view finding = .done f) ∨
            ∃ e, policy view finding = .fail (.undecodable ("DataScienceCluster " ++ Item.name o) e)) := by
  refine ⟨fun hsections hstates => readsAlike_of_objects hbody hsections hstates, ?_⟩
  rintro view finding rfl
  refine ⟨fun hnull f => ?_, policy_done_or_fail view finding⟩
  simp only [policy_eq_done_iff, states_eq_ok_iff hnull]

def withServing (serving : Json) : Object :=
  ⟨.obj [("spec", .obj [("components", .obj [("kserve", .obj [("managementState", .str "Managed"),
    ("serving", serving)])])])]⟩

def viewOf (o : Object) : ComponentView := ⟨"kserve", o, .managed, none, {}⟩

def emptyFinding : Finding := { group := .component, kind := "kserve", name := "modes", description := "" }

theorem unmanagedServing_read :
    (∃ members, (withServing (.obj [("managementState", .str "Unmanaged")])).body = .obj members) ∧
      policy (viewOf (withServing (.obj [("managementState", .str "Unmanaged")]))) emptyFinding =
        .done (stated emptyFinding ⟨some .unmanaged, some .removed⟩) := by
  have hbody : ∃ members, (withServing (.obj [("managementState", .str "Unmanaged")])).body =
      .obj members := ⟨_, rfl⟩
  refine ⟨hbody, ?_⟩
  have halike := (modes_read_by_sections _ hbody).1 ?_ ?_
  · exact (halike Standard.servingModes _ _ rfl _).2 ⟨.unmanaged, .removed, rfl, rfl, rfl⟩
  · intro v hv
    change some v ∈ [some _, some _, some _, some _, none] at hv
    simp only [List.mem_cons, List.not_mem_nil, or_false, Option.some.injEq, reduceCtorEq] at hv
    rcases hv with rfl | rfl | rfl | rfl <;> exact ⟨_, rfl⟩
  · intro p hp members
    simp only [List.mem_cons, List.not_mem_nil, or_false] at hp
    rcases hp with rfl | rfl <;> exact nofun

/-- The two part on a section that is a text, on one that is a list of its fields, on a state that is written as an
object, and on a section that is `null`. -/
theorem modes_read_apart :
    ¬ ReadsAlike (withServing (.str "on")) ∧ ¬ ReadsAlike (withServing (.arr [.str "Managed"])) ∧
      ¬ ReadsAlike (withServing (.obj [("managementState", .obj [("Managed", .null)])])) ∧
      ¬ ReadsAlike (withServing .null) := by
  refine ⟨fun h => ?_, fun h => ?_, fun h => ?_, fun h => ?_⟩
  · have hdone := (h Standard.servingModes (viewOf _) emptyFinding rfl _).2 ⟨.removed, .removed, rfl, rfl, rfl⟩
    cases hdone
  · obtain ⟨serverless, modelMesh, hserverless, hmodelMesh, hf⟩ :=
      (h Standard.servingModes (viewOf _) emptyFinding rfl (stated emptyFinding ⟨some .managed, none⟩)).1 rfl
    cases hserverless
    cases hmodelMesh
    exact absurd hf (by decide)
  · obtain ⟨serverless, modelMesh, hserverless, -⟩ :=
      (h Standard.servingModes (viewOf _) emptyFinding rfl (stated emptyFinding ⟨some .managed, none⟩)).1 rfl
    cases hserverless
  · have hdone := (h Standard.servingModes (viewOf _) emptyFinding rfl _).2 ⟨.removed, .removed, rfl, rfl, rfl⟩
    cases hdone

end ServingModes

end Preflight

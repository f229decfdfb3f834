import Preflight.Proofs.Codecs
import Preflight.Proofs.PrintedValues
import Preflight.Proofs.TimestampText
import Preflight.Report

/-! # Reports are read back
Each record of a report is read back from the value that it is written as, in every dialect of reading, so the
report is. What is lost is metadata that says `null`, which reads as no metadata. -/
namespace Preflight

open Json

theorem CheckGroup.readsBack (d : Dialect) : ReadsBack (ofJson d) fun g => .str g.name := by
  intro g
  cases g <;> rfl

theorem ConditionStatus.readsBack (d : Dialect) : ReadsBack (ofJson d) fun s => .str s.name := by
  intro s
  cases s <;> rfl

theorem Impact.readsBack (d : Dialect) : ReadsBack (ofJson d) fun i => .str i.name := by
  intro i
  cases i <;> rfl

theorem Reason.readsBack (d : Dialect) : ReadsBack (ofJson d) fun r => .str r.name := by
  intro r
  cases r <;> rfl

theorem Timestamp.readsBack : ReadsBack ofJson fun t => .str t.text := by
  intro t
  simp only [ofJson, parse?_text]

theorem Condition.readsBack (d : Dialect) : ReadsBack (ofJson d) toJson := by
  intro c
  have hstatus := ConditionStatus.readsBack d c.status
  have hreason := Reason.readsBack d c.reason
  have himpact := Impact.readsBack d c.impact
  have htime := Timestamp.readsBack c.lastTransition
  simp only [Condition.ofJson, toJson, asRecord, Slots.required_members, Slots.defaulted_members]
  simp only [Entries.find?, ↓reduceIte, String.reduceEq, hstatus, hreason, himpact, htime]
  rfl

namespace AffectedObject

def members (o : AffectedObject) : List (String × Json) :=
  o.type.fields ++ optionalMember "namespace" .str o.namespaceName ++ [("name", .str o.name)] ++
    (if o.annotations.isEmpty then [] else [("annotations", ofDictionary .str o.annotations)])

theorem readsBack : ReadsBack ofJson toJson := by
  intro o
  have hnamespace : (Slots.members o.members).defaulted "namespace" (asOption asString) none =
      .ok o.namespaceName :=
    Slots.defaulted_optional
      (by simp [members, TypeMeta.fields, Entries.find?_append, find?_optionalMember, find?_unless, Entries.find?])
      readsBack_asString nofun
  have hannotations :
      (Slots.members o.members).defaulted "annotations" (asDictionary asString) Dictionary.empty =
        .ok o.annotations :=
    Slots.defaulted_dictionary
      (by simp [members, TypeMeta.fields, Entries.find?_append, find?_optionalMember, find?_unless, Entries.find?])
      readsBack_asString
  have hname : (Slots.members o.members).required "name" asString = .ok o.name := by
    rw [Slots.required_members]
    simp [members, TypeMeta.fields, Entries.find?_append, find?_optionalMember, Entries.find?, asString]
  have htype : TypeMeta.ofSlots (.members o.members) = .ok o.type := by
    simp only [TypeMeta.ofSlots, Slots.required_members]
    simp [members, TypeMeta.fields, Entries.find?]
    rfl
  change (do
    let namespaceName ← (Slots.members o.members).defaulted "namespace" (asOption asString) none
    let name ← (Slots.members o.members).required "name" asString
    let annotations ← (Slots.members o.members).defaulted "annotations" (asDictionary asString) Dictionary.empty
    let type ← TypeMeta.ofSlots (.members o.members)
    return { type, namespaceName, name, annotations } : Decoded AffectedObject) = .ok o
  rw [hnamespace, hname, hannotations, htype]
  rfl

end AffectedObject

namespace Finding

def members (f : Finding) : List (String × Json) :=
  [("group", .str f.group.name), ("kind", .str f.kind), ("name", .str f.name), ("description", .str f.description),
    ("annotations", ofDictionary .str f.annotations), ("conditions", .arr (f.conditions.map Condition.toJson))] ++
    optionalMember "remediation" .str f.remediation ++
    optionalMember "impactedObjects" (fun os => .arr (os.map AffectedObject.toJson)) f.affected

theorem readsBack (d : Dialect) : ReadsBack (ofJson d) toJson := by
  intro f
  have hremediation :
      (Slots.members f.members).defaulted "remediation" (asOption asString) none = .ok f.remediation :=
    Slots.defaulted_optional (by simp [members, Entries.find?_append, find?_optionalMember, Entries.find?])
      readsBack_asString fun _ h => by cases h
  have haffected : (Slots.members f.members).defaulted "impactedObjects" (asOption (asArray AffectedObject.ofJson))
      none = .ok f.affected :=
    Slots.defaulted_optional (by simp [members, Entries.find?_append, find?_optionalMember, Entries.find?])
      AffectedObject.readsBack.asArray fun _ h => by cases h
  have hgroup := CheckGroup.readsBack d f.group
  have hannotations := readsBack_asString.asDictionary f.annotations
  have hconditions := (Condition.readsBack d).asArray f.conditions
  simp only [ofJson, show f.toJson = .obj f.members from rfl, asRecord, hremediation, haffected]
  simp only [Slots.required_members, Slots.defaulted_members, members, List.cons_append, List.nil_append,
    Entries.find?, ↓reduceIte, String.reduceEq, hgroup, hannotations, hconditions]
  rfl

end Finding

namespace Outcome

/-- The class that stands beside the contents decides how they are read. -/
theorem ofJson_status (tag : String) (contents : List (String × Json)) :
    ofJson (.obj (("status", .str tag) :: contents)) = ofTag tag (.obj (("status", .str tag) :: contents)) := by
  simp only [ofJson, Slots.required_members, Entries.find?]
  rfl

theorem readsBack : ReadsBack ofJson toJson := by
  intro o
  cases o with
  | skipped reason =>
    rw [toJson, ofJson_status]
    simp only [ofTag, asRecord, Slots.required_members]
    simp only [Entries.find?, ↓reduceIte, String.reduceEq, asString]
    rfl
  | completed result =>
    have hresult := Finding.readsBack .tagged result
    rw [toJson, ofJson_status]
    simp only [ofTag, asRecord, Slots.required_members]
    simp only [Entries.find?, ↓reduceIte, String.reduceEq, hresult]
    rfl
  | errored message =>
    rw [toJson, ofJson_status]
    simp only [ofTag, asRecord, Slots.required_members]
    simp only [Entries.find?, ↓reduceIte, String.reduceEq, asString]
    rfl

end Outcome

theorem CheckOutcome.readsBack (d : Dialect) : ReadsBack (ofJson d) toJson := by
  intro o
  have houtcome := Outcome.readsBack o.outcome
  simp only [CheckOutcome.ofJson, toJson, asRecord, Slots.required_members]
  simp only [Entries.find?, ↓reduceIte, String.reduceEq, houtcome]
  rfl

theorem FormatVersion.readsBack (d : Dialect) : ReadsBack (ofJson d) toJson := by
  intro v
  have hmajor := asNatBelow_of_lt v.major.toNat_lt
  have hminor := asNatBelow_of_lt v.minor.toNat_lt
  simp only [FormatVersion.ofJson, toJson, asRecord, Slots.required_members]
  simp only [Entries.find?, ↓reduceIte, String.reduceEq, hmajor, hminor]
  change Except.ok (FormatVersion.mk (UInt32.ofNat v.major.toNat) (UInt32.ofNat v.minor.toNat)) = .ok v
  rw [UInt32.ofNat_toNat, UInt32.ofNat_toNat]

/-- Counts that a report file can hold. -/
structure Summary.Fits (s : Summary) : Prop where
  total : s.total < UInt64.size
  passed : s.passed < UInt64.size
  failed : s.failed < UInt64.size
  blocking : s.blocking < UInt64.size
  skipped : s.skipped < UInt64.size
  errored : s.errored < UInt64.size

theorem Summary.ofJson_toJson (d : Dialect) {s : Summary} (h : s.Fits) : ofJson d s.toJson = .ok s := by
  simp only [Summary.ofJson, toJson, asRecord, Slots.required_members]
  simp only [Entries.find?, ↓reduceIte, String.reduceEq, asNatBelow_of_lt h.total, asNatBelow_of_lt h.passed,
    asNatBelow_of_lt h.failed, asNatBelow_of_lt h.blocking, asNatBelow_of_lt h.skipped, asNatBelow_of_lt h.errored]
  rfl

namespace Report

def members (r : Report) : List (String × Json) :=
  [("version", r.version.toJson), ("timestamp", .str r.timestamp)] ++
    optionalMember "currentVersion" .str r.currentVersion ++ optionalMember "targetVersion" .str r.targetVersion ++
    [("summary", r.summary.toJson), ("outcomes", .arr (r.outcomes.map CheckOutcome.toJson))] ++
    optionalMember "metadata" id r.metadata

/-- The report without metadata that says `null`. -/
def withoutNull (r : Report) : Report :=
  { r with metadata := match r.metadata with
    | some .null => none
    | metadata => metadata }

private theorem withoutNull_eq_self_iff {r : Report} : r.withoutNull = r ↔ r.metadata ≠ some .null := by
  constructor
  · intro h hnull
    have hnone : r.withoutNull.metadata = none := by simp only [withoutNull, hnull]
    rw [h, hnull] at hnone
    cases hnone
  · intro hne
    unfold withoutNull
    split
    · next hnull => exact absurd hnull hne
    · rfl

/-- A report reads back as itself without `null` metadata. -/
theorem ofJson_toJson (d : Dialect) {r : Report} (h : r.summary.Fits) : ofJson d r.toJson = .ok r.withoutNull := by
  have hcurrent : (Slots.members r.members).optional "currentVersion" asString = .ok r.currentVersion :=
    Slots.defaulted_optional (by simp [members, Entries.find?_append, find?_optionalMember, Entries.find?])
      readsBack_asString nofun
  have htarget : (Slots.members r.members).optional "targetVersion" asString = .ok r.targetVersion :=
    Slots.defaulted_optional (by simp [members, Entries.find?_append, find?_optionalMember, Entries.find?])
      readsBack_asString nofun
  have hmetadata : (Slots.members r.members).optional "metadata" Except.ok = .ok r.withoutNull.metadata := by
    have hfind : Entries.find? "metadata" r.members = r.metadata := by
      simp [members, Entries.find?_append, find?_optionalMember, Entries.find?]
    rw [Slots.optional, Slots.defaulted_members, hfind, withoutNull]
    rcases r.metadata with _ | v
    · rfl
    · cases v <;> rfl
  have hversion := FormatVersion.readsBack d r.version
  have hsummary := Summary.ofJson_toJson d h
  have houtcomes := (CheckOutcome.readsBack d).asArray r.outcomes
  simp only [ofJson, show r.toJson = .obj r.members from rfl, asRecord, hcurrent, htarget, hmetadata]
  simp only [Slots.required_members, members, Entries.find?_append, find?_optionalMember, Entries.find?, ↓reduceIte,
    String.reduceEq, Option.or, hversion, hsummary, houtcomes]
  rfl

/-- A report that is read from its text is the report that was written, and so is every finding, unless the metadata
says `null`, which is read as none. The reader of values is any that reads back what is printed. -/
theorem ofJson_read_text {r : Report} (hfits : r.summary.Fits) {read : String → Option Json}
    (hread : ∀ value : Json, read value.pretty = some value) :
    (r.metadata ≠ some .null → (read r.text).map (ofJson .json) = some (.ok r)) ∧
      (r.metadata = some .null → (read r.text).map (ofJson .json) = some (.ok { r with metadata := none }) ∧
        { r with metadata := none } ≠ r) ∧
      ∀ (d : Dialect) (f : Finding), Finding.ofJson d f.toJson = .ok f := by
  have htext : read r.text = some r.toJson := hread r.toJson
  have hdecoded : (read r.text).map (ofJson .json) = some (.ok r.withoutNull) := by
    rw [htext, Option.map_some, ofJson_toJson _ hfits]
  refine ⟨?_, ?_, Finding.readsBack⟩
  · intro hne
    rw [hdecoded, withoutNull_eq_self_iff.2 hne]
  · intro hnull
    have hnone : r.withoutNull = { r with metadata := none } := by simp only [withoutNull, hnull]
    refine ⟨by rw [hdecoded, hnone], fun heq => ?_⟩
    rw [← heq] at hnull
    cases hnull

def inventoried : Report :=
  { ofOutcomes "1970-01-01T00:00:00+00:00"
      [⟨"a", .skipped "not applicable"⟩,
        ⟨"b", .completed
          { group := .workload, kind := "notebook", name := "inventory", description := "", remediation := some ""
            affected := some []
            conditions :=
              [{ type := Condition.validated, status := .unknown, reason := .workloadsImpacted, message := ""
                 impact := .blocking }] }⟩] with
    targetVersion := some "3.0.0"
    metadata := some (.obj [("ticket", .null)]) }

theorem inventoried_fits : inventoried.summary.Fits where
  total := by decide
  passed := by decide
  failed := by decide
  blocking := by decide
  skipped := by decide
  errored := by decide

/-- Metadata that holds `null` is read back, metadata that is `null` is not. -/
theorem inventoried_read :
    inventoried.summary.Fits ∧ (∀ value : Json, Json.read? value.pretty = some value) ∧
      (Json.read? inventoried.text).map (ofJson .json) = some (.ok inventoried) ∧
      let lost : Report := { inventoried with metadata := some .null }
      (Json.read? lost.text).map (ofJson .json) = some (.ok { inventoried with metadata := none }) := by
  refine ⟨inventoried_fits, Json.read?_pretty, ?_, ?_⟩
  · exact (ofJson_read_text inventoried_fits Json.read?_pretty).1 (by simp [inventoried])
  · intro lost
    have hfits : lost.summary.Fits := inventoried_fits
    exact ((ofJson_read_text hfits Json.read?_pretty).2.1 rfl).1

end Report

end Preflight

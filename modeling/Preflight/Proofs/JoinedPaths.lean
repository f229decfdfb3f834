import Preflight.Proofs.ComponentCourses
import Preflight.Proofs.PathText

/-! # Paths that are joined from names
Names are joined by putting a dot before each of them, and the text that comes of it is read again. So a name with
dots in it stands for the parts between them, and a component with such a name has its state further down. -/
namespace Preflight

namespace FieldPath

/-- What stands before, between and behind the dots of a name. -/
def parts (name : String) : List String := (Text.splitAt '.' name.toList).map String.ofList

/-- Joining these names gives a path just if each of them is the name of a segment, and the path has them for its
segments. -/
def KeepsNames (names : List String) : Prop :=
  ((∃ p, join names = .ok p) ↔ ∀ name ∈ names, IsName name) ∧ ∀ p, join names = .ok p → p.segments = names

theorem cutInto_parts (name : String) : CutInto ("." ++ name) (parts name) :=
  (cutInto_iff (String.toList_append)).2 rfl

private theorem parts_ne_nil (name : String) : parts name ≠ [] := (cutInto_parts name).ne_nil

theorem parts_of_undotted {name : String} (h : '.' ∉ name.toList) : parts name = [name] := by
  rw [parts, Text.splitAt_of_not_mem h, List.map_singleton, String.ofList_toList]

theorem IsName.parts {name : String} (h : IsName name) : FieldPath.parts name = [name] :=
  parts_of_undotted h.dot_not_mem

private theorem IsName.forall_parts {name : String} (h : IsName name) :
    ∀ part ∈ FieldPath.parts name, IsName part := by
  rw [h.parts]
  exact List.forall_mem_singleton.2 h

private theorem withDots_append (segments segments' : List String) :
    withDots (segments ++ segments') = withDots segments ++ withDots segments' := by
  induction segments with
  | nil => simp [withDots]
  | cons segment segments ih => simp only [List.cons_append, withDots_cons, ih, String.append_assoc]

/-- In the text that is joined the dots inside the names cannot be told from those before them. -/
theorem withDots_flatMap_parts (names : List String) : withDots (names.flatMap parts) = withDots names := by
  induction names with
  | nil => rfl
  | cons name names ih =>
    rw [List.flatMap_cons, withDots_append, ih, withDots_cons, (cutInto_parts name).eq_withDots]

private theorem cutInto_flatMap_parts {names : List String} (h : names ≠ []) :
    CutInto (withDots names) (names.flatMap parts) where
  ne_nil := by
    obtain ⟨name, hname⟩ := List.exists_mem_of_ne_nil names h
    exact fun hnil => parts_ne_nil name (List.flatMap_eq_nil_iff.1 hnil name hname)
  undotted := by
    intro part hpart
    obtain ⟨name, -, hpart⟩ := List.mem_flatMap.1 hpart
    exact (cutInto_parts name).undotted part hpart
  eq_withDots := (withDots_flatMap_parts names).symm

/-- Only the empty name by itself gives the text of the root. -/
theorem eq_singleton_of_withDots {names : List String} (h : withDots names = ".") : names = [""] := by
  cases names with
  | nil => exact absurd h (by decide)
  | cons name rest =>
    have hempty : name = "" ∧ withDots rest = "" := by
      rw [withDots_cons, String.append_assoc, String.append_eq_left_iff] at h
      exact String.append_eq_empty_iff.1 h
    obtain ⟨rfl, hrest⟩ := hempty
    cases rest with
    | nil => rfl
    | cons next rest =>
      rw [withDots_cons, String.append_assoc] at hrest
      exact absurd (String.append_eq_empty_iff.1 hrest).1 (by decide)

theorem join_eq_ok_iff {names : List String} (h : names ≠ [""]) {p : FieldPath} :
    join names = .ok p ↔ p.segments = names.flatMap parts := by
  rw [join_eq, parse_eq_ok_iff]
  by_cases hnames : names = []
  · subst hnames
    refine ⟨fun htext => congrArg segments (text_eq_dot_iff.1 htext), fun hp => text_of_nil hp⟩
  · rw [textOf, if_neg hnames]
    have hcut := cutInto_flatMap_parts hnames
    constructor
    · intro htext
      have hp : p.segments ≠ [] := fun hnil => h (eq_singleton_of_withDots (htext ▸ text_of_nil hnil))
      exact (htext ▸ cutInto_text hp).unique hcut
    · intro hp
      rw [text_of_ne_nil (hp ▸ hcut.ne_nil), hp, withDots_flatMap_parts]

theorem exists_join_iff {names : List String} (h : names ≠ [""]) :
    (∃ p, join names = .ok p) ↔ ∀ name ∈ names, ∀ part ∈ parts name, IsName part := by
  simp only [join_eq_ok_iff h, ← List.forall_mem_flatMap]
  constructor
  · rintro ⟨p, hp⟩ part hpart
    exact p.isName_of_mem (hp ▸ hpart)
  · intro hnames
    exact ⟨⟨_, List.all_eq_true.2 fun part hpart => isSegment_iff.2 (hnames part hpart)⟩, rfl⟩

theorem keepsNames_of_undotted {names : List String} (h : names ≠ [""])
    (hundotted : ∀ name ∈ names, '.' ∉ name.toList) : KeepsNames names := by
  have hparts (name : String) (hname : name ∈ names) : parts name = [name] :=
    parts_of_undotted (hundotted name hname)
  refine ⟨(exists_join_iff h).trans ?_, fun p hp => ((join_eq_ok_iff h).1 hp).trans ?_⟩
  · refine forall_congr' fun name => forall_congr' fun hname => ?_
    rw [hparts name hname, List.forall_mem_singleton]
  · calc names.flatMap parts = names.flatMap ([·]) := by
          rw [List.flatMap_def, List.map_congr_left hparts, ← List.flatMap_def]
      _ = names := List.flatMap_singleton' names

end FieldPath

namespace ComponentCheck

theorem forComponent_eq_ok_iff {about : CheckMeta} {component : String}
    {policy : ComponentView → Finding → Program Finding} {c : ComponentCheck} :
    forComponent about component policy = .ok c ↔
      ∃ p, FieldPath.join ["spec", "components", component, "managementState"] = .ok p ∧
        c = { about, component, statePath := p, policy } := by
  unfold forComponent
  cases FieldPath.join ["spec", "components", component, "managementState"] with
  | error e => exact iff_of_false nofun fun ⟨_, h, _⟩ => nomatch h
  | ok p =>
    constructor
    · intro h
      exact ⟨p, rfl, (Except.ok.inj h).symm⟩
    · rintro ⟨_, h, rfl⟩
      cases h
      rfl

/-- The text of the path and its segments, where the state of a component is read. -/
theorem statePath_of_forComponent {about : CheckMeta} {component : String}
    {policy : ComponentView → Finding → Program Finding} {c : ComponentCheck}
    (h : forComponent about component policy = .ok c) :
    c.statePath.text = ".spec.components." ++ component ++ ".managementState" ∧
      c.statePath.segments = "spec" :: "components" :: FieldPath.parts component ++ ["managementState"] := by
  obtain ⟨p, hjoin, rfl⟩ := forComponent_eq_ok_iff.1 h
  constructor
  · rw [FieldPath.join_eq, FieldPath.parse_eq_ok_iff] at hjoin
    rw [hjoin]
    exact String.toList_injective (by simp [FieldPath.textOf, FieldPath.withDots])
  · rw [FieldPath.join_eq_ok_iff (by simp)] at hjoin
    exact hjoin

theorem exists_forComponent_iff {about : CheckMeta} {component : String}
    {policy : ComponentView → Finding → Program Finding} :
    (∃ c, forComponent about component policy = .ok c) ↔
      ∀ part ∈ FieldPath.parts component, FieldPath.IsName part := by
  have hjoin : (∃ c, forComponent about component policy = .ok c) ↔
      ∃ p, FieldPath.join ["spec", "components", component, "managementState"] = .ok p := by
    simp only [forComponent_eq_ok_iff]
    exact ⟨fun ⟨_, p, hp, _⟩ => ⟨p, hp⟩, fun ⟨p, hp⟩ => ⟨_, p, hp, rfl⟩⟩
  have hfixed : ∀ name ∈ ["spec", "components", "managementState"], FieldPath.IsName name := by decide
  rw [hjoin, FieldPath.exists_join_iff (by simp)]
  constructor
  · intro h
    exact h component (by simp)
  · intro h name hname
    by_cases hcomponent : name = component
    · exact hcomponent ▸ h
    · exact (hfixed name (by simpa [hcomponent] using hname)).forall_parts

end ComponentCheck

namespace FieldPath

/-- Names are joined into the path of their parts, so those without dots are kept as they are. A component stands
for the parts of its name, too, and its state is read where the text with the name in its place leads. -/
theorem segments_of_joined_names (names : List String) (h : names ≠ [""]) :
    (∀ name, CutInto ("." ++ name) (parts name) ∧ ('.' ∉ name.toList → parts name = [name])) ∧
      ((∃ p, join names = .ok p) ↔ ∀ name ∈ names, ∀ part ∈ parts name, IsName part) ∧
      (∀ p, join names = .ok p → p.segments = names.flatMap parts) ∧
      ((∀ name ∈ names, '.' ∉ name.toList) → KeepsNames names) ∧
      ∀ about component policy,
        ((∃ c, ComponentCheck.forComponent about component policy = .ok c) ↔
          ∀ part ∈ parts component, IsName part) ∧
          ∀ c, ComponentCheck.forComponent about component policy = .ok c →
            c.statePath.text = ".spec.components." ++ component ++ ".managementState" ∧
              c.statePath.segments = "spec" :: "components" :: parts component ++ ["managementState"] ∧
              ∀ o r, c.readState o = r ↔ ManagementState.ReadFrom component
                (walk? ("spec" :: "components" :: parts component ++ ["managementState"]) o.body) r := by
  refine ⟨fun name => ⟨cutInto_parts name, parts_of_undotted⟩, exists_join_iff h,
    fun p hp => (join_eq_ok_iff h).1 hp, keepsNames_of_undotted h, fun about component policy => ?_⟩
  refine ⟨ComponentCheck.exists_forComponent_iff, fun c hc => ?_⟩
  obtain ⟨htext, hsegments⟩ := ComponentCheck.statePath_of_forComponent hc
  refine ⟨htext, hsegments, fun o r => ?_⟩
  obtain ⟨p, -, rfl⟩ := ComponentCheck.forComponent_eq_ok_iff.1 hc
  rw [← hsegments]
  exact ComponentCheck.readFrom_iff.symm

def servingMeta : CheckMeta :=
  { id := "components.kserve.serving", name := "KServe serving", group := .component, kind := "kserve",
    checkType := "serving" }

def quietPolicy (_ : ComponentView) (finding : Finding) : Program Finding := .done finding

/-- A name with a dot is joined as two names, and one with a dot at its end is not joined at all. -/
theorem kserveServing_joined :
    ["spec", "kserve.serving"] ≠ [""] ∧
      (∃ p, join ["spec", "kserve.serving"] = .ok p ∧ p.segments = ["spec", "kserve", "serving"]) ∧
      (¬ ∃ p, join ["spec", "kserve."] = .ok p) ∧ KeepsNames ["spec", "kserve", ""] ∧
      ∃ c, ComponentCheck.forComponent servingMeta "kserve.serving" quietPolicy = .ok c ∧
        c.statePath.text = ".spec.components.kserve.serving.managementState" := by
  have hnames : ["spec", "kserve.serving"] ≠ [""] := by decide
  obtain ⟨-, hjoined, hsegments, -, hcomponent⟩ := segments_of_joined_names _ hnames
  refine ⟨hnames, ?_, ?_, ?_, ?_⟩
  · obtain ⟨p, hp⟩ := hjoined.2 (by decide)
    exact ⟨p, hp, hsegments p hp⟩
  · rw [(segments_of_joined_names ["spec", "kserve."] (by decide)).2.1]
    intro h
    exact absurd rfl (h "kserve." (by simp) "" (by decide)).1
  · exact (segments_of_joined_names ["spec", "kserve", ""] (by decide)).2.2.2.1 (by decide)
  · obtain ⟨hbuilt, hread⟩ := hcomponent servingMeta "kserve.serving" quietPolicy
    obtain ⟨c, hc⟩ := hbuilt.2 (by decide)
    exact ⟨c, hc, (hread c hc).1⟩

/-- A name with a dot is no name of a segment and is joined all the same, also as that of a component, and so is the
empty name by itself. -/
theorem dotted_names_not_kept :
    ¬ KeepsNames ["spec", "kserve.serving"] ∧ ¬ KeepsNames [""] ∧ ¬ IsName "kserve.serving" ∧
      ∃ c, ComponentCheck.forComponent servingMeta "kserve.serving" quietPolicy = .ok c := by
  have hname : ¬ IsName "kserve.serving" := by decide
  refine ⟨fun h => ?_, fun h => ?_, hname, ComponentCheck.exists_forComponent_iff.2 (by decide)⟩
  · exact hname (h.1.1 ((exists_join_iff (by decide)).2 (by decide)) _ (by simp))
  · exact absurd (h.1.1 ⟨root, rfl⟩ "" (by simp)) (by decide)

end FieldPath

end Preflight

import Preflight.Check.Release
import Preflight.Proofs.Absence
import Preflight.Proofs.ComponentCourses
import Preflight.Proofs.LenientVersions
import Preflight.Proofs.PathLookup
import Preflight.Proofs.TargetVersion
import Preflight.Proofs.Verdict

/-! # Recorded releases
The release that a cluster records is the one that a run is gated by. A release that is not recorded, or not in a
way in which a version can be read from it, is unknown, and with an unknown release none of the standard checks
applies, so that nothing can block the upgrade. It is otherwise where the singleton cannot be read: then there is no
upgrade to run the checks for. -/
namespace Preflight

/-- A singleton cannot be read if the listing fails, except for want of the type, or if it has more than one
object. -/
theorem singletonOf_eq_error_iff {type : ResourceType} {listing : Except ReadFailure (List Object)}
    {e : ReadFailure} :
    singletonOf type listing = .error e ↔ listing = .error e ∧ e.isTypeNotInstalled = false ∨
      ∃ os, listing = .ok os ∧ 2 ≤ os.length ∧ e = .ambiguous type.text os.length := by
  rw [← orEmpty_eq_error_iff]
  unfold singletonOf
  cases listing with
  | error e' =>
    simp only [reduceCtorEq, false_and, exists_false, or_false]
    cases horEmpty : orEmpty (.error e') with
    | error e =>
      change Except.error e = Except.error _ ↔ _
      rw [Except.error.injEq, Except.error.injEq]
    | ok os =>
      rcases orEmpty_eq_ok_iff.1 horEmpty with hlisting | ⟨hnil, -⟩
      · cases hlisting
      · subst hnil
        change Except.ok none = _ ↔ _
        simp only [reduceCtorEq]
  | ok os =>
    rcases os with _ | ⟨o, _ | ⟨o', os⟩⟩
    · change Except.ok none = _ ↔ _
      simp [orEmpty]
    · change Except.ok (some o) = _ ↔ _
      simp [orEmpty]
    · change Except.error (ReadFailure.ambiguous type.text (o :: o' :: os).length) = _ ↔ _
      simp [orEmpty, eq_comm]

namespace Release

variable {o : Object} {x : Version}

private theorem version?_eq_some_iff : version? o = some x ↔ ∃ raw : String,
    FieldPath.Reaches path.segments o.body (.str raw) ∧ Version.core raw = x.text := by
  unfold version? Object.get?
  simp only [Option.bind_eq_bind, Option.bind_eq_some_iff, FieldPath.lookup_eq_some_iff,
    Version.parseLenient?_eq_some_iff]
  constructor
  · rintro ⟨raw, ⟨v, ⟨-, hreaches⟩, hstring⟩, hcore⟩
    cases v with
    | str s =>
      cases hstring
      exact ⟨raw, hreaches, hcore⟩
    | _ => cases hstring
  · rintro ⟨raw, hreaches, hcore⟩
    exact ⟨raw, ⟨.str raw, ⟨nofun, hreaches⟩, rfl⟩, hcore⟩

/-- The path to the release, as it is written. -/
example : FieldPath.parse ".status.release.version" = .ok path := rfl

end Release

namespace Cluster

/-- The cluster records a release: it has one initialization singleton, and where that keeps the version of the
release there is a text that is the text of the version but for blanks around it and one letter `v` in front. -/
def Records (c : Cluster) (x : Version) : Prop :=
  ∃ o raw, c.list .initialization {} = .ok [o] ∧
    FieldPath.Reaches ["status", "release", "version"] o.body (.str raw) ∧ Version.core raw = x.text

private theorem records_iff {c : Cluster} {x : Version} :
    c.Records x ↔ ∃ o, c.only .initialization = .ok (some o) ∧ Release.version? o = some x := by
  simp only [Records, only_eq_some_iff, Release.version?_eq_some_iff, exists_and_left]
  rfl

end Cluster

namespace Release

open Program

variable (c : Cluster)

theorem neverCancels_detect : detect.NeverCancels := (neverCancels_singleton _).bind fun _ => trivial

theorem answer_detect : detect.answer c = (c.only .initialization).map (· >>= version?) := by
  change (Program.singleton .initialization >>= fun found => Program.done (found >>= version?)).answer c = _
  rw [answer_bind, answer_singleton]
  cases c.only .initialization <;> rfl

theorem result_detect (position start : Nat) : (detect.run c position none start).result = detect.answer c := by
  rw [run_none (neverCancels_detect.on c)]

theorem answer_detect_eq_error_iff {fault : Fault} : detect.answer c = .error fault ↔
    ∃ e, singletonOf .initialization (c.list .initialization {}) = .error e ∧
      fault = .read "fetching DSCInitialization" e := by
  rw [answer_detect, map_eq_error_iff, Cluster.only_eq_error_iff]
  rfl

theorem answer_detect_eq_some_iff {x : Version} : detect.answer c = .ok (some x) ↔ c.Records x := by
  rw [answer_detect, Cluster.records_iff]
  cases c.only .initialization with
  | error e => exact iff_of_false nofun fun ⟨_, h, _⟩ => nomatch h
  | ok found =>
    change Except.ok (found >>= version?) = _ ↔ _
    simp [Option.bind_eq_some_iff]

/-- What is neither a failed read nor a recorded release is an unknown one. -/
theorem answer_detect_eq_none_iff : detect.answer c = .ok none ↔
    (∀ e, singletonOf .initialization (c.list .initialization {}) ≠ .error e) ∧ ∀ x, ¬ c.Records x := by
  simp only [← answer_detect_eq_some_iff]
  constructor
  · intro h
    refine ⟨fun e he => ?_, fun x hx => nomatch h.symm.trans hx⟩
    exact nomatch h.symm.trans ((answer_detect_eq_error_iff c).2 ⟨e, he, rfl⟩)
  · rintro ⟨hread, hunrecorded⟩
    match hanswer : detect.answer c with
    | .error fault =>
      obtain ⟨e, he, -⟩ := (answer_detect_eq_error_iff c).1 hanswer
      exact absurd he (hread e)
    | .ok (some x) => exact absurd hanswer (hunrecorded x)
    | .ok none => rfl

end Release

theorem Upgrade.result_detect (s : Settings) (c : Cluster) (position start : Nat) :
    ((Upgrade.detect s).run c position none start).result =
      (Release.detect.answer c).map fun current => { current, target := s.targetVersion } := by
  have hnever : (Upgrade.detect s).NeverCancels := Release.neverCancels_detect.bind fun _ => trivial
  rw [Program.run_none (hnever.on c)]
  change (Release.detect >>= fun current => Program.done _).answer c = _
  rw [Program.answer_bind]
  cases Release.detect.answer c <;> rfl

namespace Standard

/-- From which release and to which target a standard check is meant to be asked: the check on Authorino from
version 2.16 on, wherever the upgrade leads, and all others from version 2 to version 3. -/
def Admits (checkId : String) (release : Version) (target : Option Version) : Prop :=
  if checkId = authorino.about.id then Version.atLeast (some release) 2 16 = true
  else ∃ v, target = some v ∧ release.major = 2 ∧ v.major = 3

theorem exists_applies_iff_admits {check : Check} (hcheck : check ∈ checks) (u : Upgrade) : ∃ applies,
    check.applies u = .ok applies ∧
      (applies = true ↔ ∃ x, u.current = some x ∧ Admits check.about.id x u.target) := by
  have hupgrade : u.is2To3 = true ↔
      ∃ x, u.current = some x ∧ ∃ v, u.target = some v ∧ x.major = 2 ∧ v.major = 3 := by
    rw [Upgrade.is2To3_iff]
    simp only [exists_and_left]
  simp only [checks, List.mem_cons, List.not_mem_nil, or_false] at hcheck
  rcases hcheck with rfl | rfl | rfl | rfl | rfl | rfl
  · exact ⟨_, rfl, hupgrade⟩
  · exact ⟨_, rfl, hupgrade⟩
  · exact ⟨_, rfl, hupgrade⟩
  · exact ⟨_, rfl, hupgrade⟩
  · exact ⟨_, rfl, hupgrade⟩
  · have hadmits (x : Version) :
        Admits authorino.toCheck.about.id x u.target ↔ Version.atLeast (some x) 2 16 = true :=
      iff_of_eq (if_pos rfl)
    refine ⟨Version.atLeast u.current 2 16, rfl, ?_⟩
    simp only [hadmits]
    cases u.current with
    | none => simp [Version.atLeast]
    | some x => simp

private theorem applies_of_unknown {check : Check} (hcheck : check ∈ checks) {u : Upgrade} (hu : u.current = none) :
    check.applies u = .ok false := by
  obtain ⟨applies, happlies, hiff⟩ := exists_applies_iff_admits hcheck u
  rw [happlies]
  cases applies with
  | false => rfl
  | true =>
    obtain ⟨x, hx, -⟩ := hiff.1 rfl
    cases hu.symm.trans hx

end Standard

namespace Inspection

variable {i : Inspection} {check : Check}

private theorem outcomeAlone_eq_notApplicable_iff (hcheck : check.NeverCancels) {applies : Bool}
    (happlies : check.applies i.effectiveUpgrade = .ok applies) :
    i.outcomeAlone check = .skipped notApplicable ↔
      i.settings.isSkipped check.about.id = false ∧ applies = false := by
  cases hs : i.settings.isSkipped check.about.id with
  | true =>
    rw [outcomeAlone_of_skipped hs]
    exact iff_of_false (by decide) nofun
  | false =>
    cases applies with
    | false =>
      rw [outcomeAlone_of_refused hs happlies]
      exact iff_of_true rfl ⟨rfl, rfl⟩
    | true =>
      rw [outcomeAlone_of_applies (sparedBy_of_neverCancels i hcheck) hs happlies]
      refine iff_of_false ?_ nofun
      cases (check.evaluate i.effectiveUpgrade).answer i.cluster <;> exact nofun

theorem failsBlocking_evaluate_of_refused (happlies : check.applies i.effectiveUpgrade = .ok false)
    (stop : Option Stop) (position start : Nat) :
    (i.evaluate stop position start check).outcome.failsBlocking = false := by
  cases hs : i.settings.isSkipped check.about.id with
  | true =>
    rw [evaluate_of_skipped hs]
    rfl
  | false =>
    have hanswer : (check.attempt i.effectiveUpgrade).answer i.cluster = .ok none := by
      rw [Check.answer_attempt, happlies]
      rfl
    rw [evaluate_of_not_skipped hs]
    dsimp only
    rcases (check.attempt i.effectiveUpgrade).run_result i.cluster position stop start with hresult | hresult
    · rw [hresult, hanswer]
      rfl
    · rw [hresult]
      rfl

private theorem blocking_report_of_refused
    (h : ∀ check ∈ i.catalog.checks, check.applies i.effectiveUpgrade = .ok false) (stop : Option Stop) :
    (i.report stop).summary.blocking = 0 := by
  obtain ⟨s, hs⟩ := i.exists_evaluationsUntil_eq stop
  rw [blocking_report, List.countP_eq_zero, report_outcomes, hs]
  simp only [List.forall_mem_map]
  intro e he
  obtain ⟨k, hk⟩ := List.mem_iff_getElem?.1 he
  obtain ⟨check, hcheck, rfl⟩ := exists_of_getElem?_evaluationsUntil hk
  exact ne_true_of_eq_false (failsBlocking_evaluate_of_refused (h check (List.mem_of_getElem? hcheck)) s k _)

/-- Every gate of a run is that of the release which the cluster records and of the target, a check is found not
applicable just by its gate, and without a recorded release nothing blocks, however the run is cancelled. -/
structure GatedByRecord (i : Inspection) (target : Option Version) : Prop where
  release : ∀ x, i.effectiveUpgrade.current = some x ↔ i.cluster.Records x
  aim : i.effectiveUpgrade.target = target
  gates : ∀ check ∈ i.catalog.checks, ∃ applies, check.applies i.effectiveUpgrade = .ok applies ∧
    (applies = true ↔ ∃ x, i.cluster.Records x ∧ Standard.Admits check.about.id x target) ∧
    ((i.report none).outcome? check.about.id = some ⟨check.about.id, .skipped notApplicable⟩ ↔
      i.settings.isSkipped check.about.id = false ∧ applies = false)
  unblocked : (∀ x, ¬ i.cluster.Records x) → ∀ stop,
    (i.report stop).summary.blocking = 0 ∧ (i.report stop).hasBlockingFailures = false

private theorem gatedByRecord_of_standard (hcatalog : i.catalog = Standard.catalog)
    (hrelease : ∀ x, i.effectiveUpgrade.current = some x ↔ i.cluster.Records x) :
    i.GatedByRecord i.effectiveUpgrade.target where
  release := hrelease
  aim := rfl
  gates check hcheck := by
    have hnever : ∀ check ∈ i.catalog.checks, check.NeverCancels := hcatalog ▸ neverCancels_of_mem_standard
    have hstandard : check ∈ Standard.checks := by rwa [hcatalog] at hcheck
    obtain ⟨applies, happlies, hadmits⟩ := Standard.exists_applies_iff_admits hstandard i.effectiveUpgrade
    refine ⟨applies, happlies, ?_, ?_⟩
    · rw [hadmits]
      exact exists_congr fun x => and_congr_left' (hrelease x)
    · rw [outcome?_report_none (uncancelled_of_neverCancels hnever) hcheck,
        ← outcomeAlone_eq_notApplicable_iff (hnever check hcheck) happlies, Option.some.injEq,
          CheckOutcome.mk.injEq]
      exact and_iff_right rfl
  unblocked hunrecorded stop := by
    have hunknown : i.effectiveUpgrade.current = none :=
      Option.eq_none_iff_forall_ne_some.2 fun x hx => hunrecorded x ((hrelease x).1 hx)
    have hrefused : ∀ check ∈ i.catalog.checks, check.applies i.effectiveUpgrade = .ok false := by
      rw [hcatalog]
      exact fun check hcheck => Standard.applies_of_unknown hcheck hunknown
    have hblocking := blocking_report_of_refused hrefused stop
    exact ⟨hblocking, by rw [Report.hasBlockingFailures, hblocking]; rfl⟩

/-- The release is detected as the cluster records it, and where it is not recorded as unknown; only a singleton
that cannot be read is a fault. A run of the standard checks for the upgrade from there is gated by the recorded
release, whatever the settings with which the upgrade was built and those of the run. -/
theorem standard_gated_by_record (c : Cluster) (position start : Nat) :
    let read := singletonOf .initialization (c.list .initialization {})
    let detected := (Release.detect.run c position none start).result
    (∀ fault, detected = .error fault ↔ ∃ e, read = .error e ∧ fault = .read "fetching DSCInitialization" e) ∧
    (∀ e, read = .error e ↔ c.list .initialization {} = .error e ∧ e.isTypeNotInstalled = false ∨
      ∃ os, c.list .initialization {} = .ok os ∧ 2 ≤ os.length ∧
        e = .ambiguous ResourceType.initialization.text os.length) ∧
    (∀ x, detected = .ok (some x) ↔ c.Records x) ∧
    (detected = .ok none ↔ (∀ e, read ≠ .error e) ∧ ∀ x, ¬ c.Records x) ∧
    ∀ settings : Settings, let built := ((Upgrade.detect settings).run c position none start).result
      (∀ fault, built = .error fault ↔ detected = .error fault) ∧
      ∀ u, built = .ok u → ∀ (settings' : Settings) (t : Timestamp),
        let i : Inspection :=
          { catalog := Standard.catalog, settings := settings', cluster := c, upgrade := u, timestamp := t }
        i.GatedByRecord (settings'.targetVersion.or settings.targetVersion) := by
  intro read detected
  have hdetected : detected = Release.detect.answer c := Release.result_detect c position start
  rw [hdetected]
  refine ⟨fun fault => Release.answer_detect_eq_error_iff c, fun e => singletonOf_eq_error_iff,
    fun x => Release.answer_detect_eq_some_iff c, Release.answer_detect_eq_none_iff c, fun settings => ?_⟩
  rw [Upgrade.result_detect]
  refine ⟨fun fault => map_eq_error_iff, ?_⟩
  intro u hu settings' t i
  cases hanswer : Release.detect.answer c with
  | error e =>
    rw [hanswer] at hu
    cases hu
  | ok current =>
    rw [hanswer] at hu
    cases hu
    refine gatedByRecord_of_standard rfl fun x => ?_
    change current = some x ↔ c.Records x
    rw [← Release.answer_detect_eq_some_iff, hanswer, Except.ok.injEq]

def recordedAs (raw : String) : Cluster where
  inventory :=
    { objects := [(.initialization, ⟨.obj [("status", .obj [("release", .obj [("version", .str raw)])])]⟩)]
      installed := [.initialization] }

def doublyLettered : Inspection where
  catalog := Standard.catalog
  settings := { targetVersion := some (.ofMinor 3 0) }
  cluster := recordedAs "vv2.17.0"
  upgrade := { target := some (.ofMinor 3 0) }

/-- With one letter and blanks the release is recorded. With two it is not, and nothing blocks. -/
theorem doublyLettered_gated :
    (recordedAs " v2.17.0\n").Records (.ofMinor 2 17) ∧
      ((Upgrade.detect doublyLettered.settings).run doublyLettered.cluster 0 none 0).result =
        .ok doublyLettered.upgrade ∧
      doublyLettered.GatedByRecord (some (.ofMinor 3 0)) ∧ (∀ x, ¬ doublyLettered.cluster.Records x) ∧
      (doublyLettered.report none).hasBlockingFailures = false := by
  obtain ⟨-, -, hrecorded, -⟩ := standard_gated_by_record (recordedAs " v2.17.0\n") 0 0
  obtain ⟨-, -, -, hunknown, hbuilt⟩ := standard_gated_by_record doublyLettered.cluster 0 0
  have hunrecorded : ∀ x, ¬ doublyLettered.cluster.Records x := (hunknown.1 rfl).2
  have hgated := (hbuilt doublyLettered.settings).2 doublyLettered.upgrade rfl doublyLettered.settings .epoch
  exact ⟨(hrecorded _).1 rfl, rfl, hgated, hunrecorded, (hgated.unblocked hunrecorded none).2⟩

end Inspection

end Preflight

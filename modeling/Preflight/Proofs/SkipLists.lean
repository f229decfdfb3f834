import Preflight.Proofs.Evaluations
import Preflight.Standard.Catalog

/-! # Longer skip lists
A check that the settings leave out has its outcome before anything but its id is looked at. When more checks are
left out the others are started at other instants, which makes no difference to their outcomes as long as nothing
cancels the run. -/
namespace Preflight

namespace Settings

variable {s t : Settings}

/-- A skip list that holds all patterns of another leaves out all checks that the other does. -/
theorem isSkipped_of_subset (h : s.skip ⊆ t.skip) {checkId : String} (hs : s.isSkipped checkId = true) :
    t.isSkipped checkId = true := by
  obtain ⟨pattern, hpattern, hcovers⟩ := List.any_eq_true.1 hs
  exact List.any_eq_true.2 ⟨pattern, h hpattern, hcovers⟩

theorem not_isSkipped_of_subset (h : s.skip ⊆ t.skip) {checkId : String} (ht : t.isSkipped checkId = false) :
    s.isSkipped checkId = false :=
  Bool.eq_false_of_not_eq_true fun hs => Bool.false_ne_true (ht.symm.trans (isSkipped_of_subset h hs))

/-- Checks with one id, and the same check unless the settings leave it out. -/
def Interchangeable (s : Settings) (c d : Check) : Prop :=
  d.about.id = c.about.id ∧ (s.isSkipped c.about.id = false → d = c)

end Settings

namespace Inspection

variable {i : Inspection} {patterns : List String} {c d : Check} {k : Nat}

def skipping (i : Inspection) (patterns : List String) : Inspection :=
  { i with settings := { i.settings with skip := patterns } }

/-- However the run is cancelled, an evaluation of a check that is left out takes no time and makes no reads. -/
theorem exists_evaluation_of_skipped (stop : Option Stop) (hc : i.catalog.checks[k]? = some c)
    (hs : i.settings.isSkipped c.about.id = true) :
    ∃ start, (i.evaluations stop)[k]? = some
      { checkId := c.about.id, start, finish := start, reads := 0, outcome := .skipped skippedBySettings,
        cancelledAt := none } := by
  obtain ⟨s, hstop⟩ := i.exists_evaluationsUntil_eq stop
  refine ⟨i.startUntil s k, ?_⟩
  rw [hstop, getElem?_evaluationsUntil, hc, Option.map_some, evaluate_of_skipped hs]

private theorem evaluate_eq_of_interchangeable (h : i.settings.Interchangeable c d) (stop : Option Stop)
    (position start : Nat) : i.evaluate stop position start d = i.evaluate stop position start c := by
  obtain ⟨hid, hsame⟩ := h
  cases hs : i.settings.isSkipped c.about.id with
  | true => rw [evaluate_of_skipped hs, evaluate_of_skipped (hid ▸ hs), hid]
  | false => rw [hsame hs]

/-- Nothing is asked of a check that is left out but its id: with any other checks in place of those that are left
out the evaluations are the same. -/
theorem evaluations_eq_of_interchangeable {catalog : Catalog} (stop : Option Stop)
    (h : List.Forall₂ i.settings.Interchangeable i.catalog.checks catalog.checks) :
    ({ i with catalog }).evaluations stop = i.evaluations stop := by
  have huntil : ∀ stop, i.evaluationsUntil stop = ({ i with catalog }).evaluationsUntil stop := by
    intro stop
    have hjob : ∀ c d, i.settings.Interchangeable c d → ∀ position start,
        i.evaluate stop position start c = i.evaluate stop position start d :=
      fun c d hcd position start => (evaluate_eq_of_interchangeable hcd stop position start).symm
    have hrelated : List.Forall₂ Eq (i.evaluationsUntil stop) (({ i with catalog }).evaluationsUntil stop) :=
      Pool.forall₂_runFrom hjob (fun e e' he => congrArg Evaluation.finish he) h 0 {}
    rw [List.forall₂_eq_eq_eq] at hrelated
    exact hrelated
  simp only [evaluations, huntil]

theorem Uncancelled.skipping (h : i.Uncancelled) (hpatterns : i.settings.skip ⊆ patterns) :
    (i.skipping patterns).Uncancelled :=
  fun c hc hs => h c hc (Settings.not_isSkipped_of_subset (t := (i.skipping patterns).settings) hpatterns hs)

/-- The outcomes of a run, those replaced whose checks a longer skip list leaves out. -/
theorem outcomes_skipping (h : i.Uncancelled) (hpatterns : i.settings.skip ⊆ patterns) :
    ((i.skipping patterns).report none).outcomes = (i.report none).outcomes.map fun o =>
      if (i.skipping patterns).settings.isSkipped o.checkId = true ∧ i.settings.isSkipped o.checkId = false then
        ⟨o.checkId, .skipped skippedBySettings⟩
      else o := by
  rw [outcomes_of_uncancelled h, outcomes_of_uncancelled (h.skipping hpatterns), List.map_map]
  refine List.map_congr_left fun c _ => ?_
  dsimp only [Function.comp_apply]
  cases hs' : (i.skipping patterns).settings.isSkipped c.about.id with
  | true =>
    rw [outcomeAlone_of_skipped hs']
    cases hs : i.settings.isSkipped c.about.id with
    | true => rw [outcomeAlone_of_skipped hs, if_neg (by simp)]
    | false => rw [if_pos ⟨rfl, rfl⟩]
  | false =>
    have hs := Settings.not_isSkipped_of_subset (t := (i.skipping patterns).settings) hpatterns hs'
    rw [if_neg (by simp), outcomeAlone, outcomeAlone, evaluate_of_not_skipped hs, evaluate_of_not_skipped hs']
    rfl

private theorem hasBlockingFailures_of_skipping (h : i.Uncancelled) (hpatterns : i.settings.skip ⊆ patterns)
    (hblocking : ((i.skipping patterns).report none).hasBlockingFailures = true) :
    (i.report none).hasBlockingFailures = true := by
  rw [(accounted_report _ none).hasBlockingFailures_iff] at hblocking ⊢
  obtain ⟨o, ho, f, hf, hcondition⟩ := hblocking
  rw [outcomes_skipping h hpatterns] at ho
  obtain ⟨o', ho', rfl⟩ := List.mem_map.1 ho
  split at hf
  · cases hf
  · exact ⟨o', ho', f, hf, hcondition⟩

/-- A check that a longer skip list leaves out is skipped, however the run is cancelled, takes no time and makes
no reads, and nothing is asked of it but its id. A run that nothing cancels stays one, and its report is the
report with the shorter list in which the outcomes are replaced of those checks that are newly left out, and of no
others. -/
theorem report_skipping (i : Inspection) (patterns : List String) (hpatterns : i.settings.skip ⊆ patterns) :
    let j := i.skipping patterns
    (∀ (stop : Option Stop) (k : Nat) (c : Check), i.catalog.checks[k]? = some c →
      j.settings.isSkipped c.about.id = true → ∃ start, (j.evaluations stop)[k]? = some
        { checkId := c.about.id, start, finish := start, reads := 0, outcome := .skipped "skipped by configuration",
          cancelledAt := none }) ∧
      (∀ (stop : Option Stop) (catalog : Catalog),
        List.Forall₂ j.settings.Interchangeable i.catalog.checks catalog.checks →
          ({ j with catalog }).evaluations stop = j.evaluations stop) ∧
      (i.Uncancelled → j.Uncancelled ∧
        let outcomes := (i.report none).outcomes.map fun o =>
          if j.settings.isSkipped o.checkId = true ∧ i.settings.isSkipped o.checkId = false then
            ⟨o.checkId, .skipped "skipped by configuration"⟩
          else o
        j.report none =
            { i.report none with outcomes, summary := .tally (outcomes.map CheckOutcome.outcome) } ∧
          ((j.report none).hasBlockingFailures = true → (i.report none).hasBlockingFailures = true)) := by
  intro j
  refine ⟨fun stop k c hc hs => ?_, fun stop catalog hcatalog => ?_, fun h => ⟨h.skipping hpatterns, ?_⟩⟩
  · exact exists_evaluation_of_skipped (i := j) stop hc hs
  · exact evaluations_eq_of_interchangeable (i := j) stop hcatalog
  · intro outcomes
    have houtcomes : (j.report none).outcomes = outcomes := outcomes_skipping h hpatterns
    refine ⟨?_, hasBlockingFailures_of_skipping h hpatterns⟩
    rw [report_eq j, report_eq i, houtcomes, Report.ofOutcomes_eq, Report.ofOutcomes_eq]
    rfl

def canceller (about : CheckMeta) : Check where
  about := about
  applies _ := .ok true
  evaluate _ := .cancel (.fail .cancelled)

/-- The second version of the service mesh is there, and a check is left out that would cancel the run. -/
def meshInstalled : Inspection where
  catalog :=
    { checks :=
        [canceller { id := "local.canceller", name := "", group := .dependency, kind := "", checkType := "" },
          Standard.serviceMesh.toCheck, Standard.notebooks.toCheck]
      distinct := by decide }
  settings := { skip := ["local.*"] }
  cluster :=
    { inventory :=
        { subscriptions :=
            [{ name := "servicemeshoperator", namespaceName := "mesh", channel := "stable",
                installedRelease := some "servicemeshoperator.v2.6.1" }] } }
  upgrade := { current := some (.ofMinor 2 17), target := some (.ofMinor 3 0) }

def withoutMeshCheck : Catalog where
  checks :=
    [canceller { id := "local.canceller", name := "", group := .dependency, kind := "", checkType := "" },
      canceller Standard.serviceMesh.about, Standard.notebooks.toCheck]
  distinct := by decide

theorem meshInstalled_uncancelled : meshInstalled.Uncancelled := by
  intro c hc hs
  simp only [meshInstalled, List.mem_cons, List.not_mem_nil, or_false] at hc
  rcases hc with rfl | rfl | rfl
  · exact absurd hs (by decide)
  · exact meshInstalled.sparedBy_of_neverCancels (Check.ByProtocol.operator Standard.serviceMesh).neverCancels hs
  · have hprotocol := Check.ByProtocol.workload Standard.notebooks fun _ _ => trivial
    exact meshInstalled.sparedBy_of_neverCancels hprotocol.neverCancels hs

/-- To leave out the check of the service mesh takes its failure out of the report and leaves the rest as it was,
even if the check would have cancelled the run. -/
theorem meshInstalled_skipping :
    let j := meshInstalled.skipping ["dependencies.s*", "local.*"]
    meshInstalled.settings.skip ⊆ ["dependencies.s*", "local.*"] ∧ meshInstalled.Uncancelled ∧
      (meshInstalled.report none).hasBlockingFailures = true ∧ (j.report none).hasBlockingFailures = false ∧
      (∃ o : CheckOutcome, (meshInstalled.report none).outcomes[2]? = some o ∧ (j.report none).outcomes =
        [⟨"local.canceller", .skipped "skipped by configuration"⟩,
          ⟨"dependencies.servicemesh.v2", .skipped "skipped by configuration"⟩, o]) ∧
      (∃ e : Evaluation, (j.evaluations none)[1]? = some e ∧ e.reads = 0) ∧
      ({ j with catalog := withoutMeshCheck }).evaluations none = j.evaluations none := by
  intro j
  have hpatterns : meshInstalled.settings.skip ⊆ ["dependencies.s*", "local.*"] := by simp [meshInstalled]
  obtain ⟨hskipped, hunasked, huncancelled⟩ :=
    report_skipping meshInstalled ["dependencies.s*", "local.*"] hpatterns
  obtain ⟨-, hreport, -⟩ := huncancelled meshInstalled_uncancelled
  refine ⟨hpatterns, meshInstalled_uncancelled, rfl, ?_, ?_, ?_, ?_⟩
  · rw [hreport]
    rfl
  · rw [hreport]
    exact ⟨_, rfl, rfl⟩
  · obtain ⟨start, hevaluation⟩ := hskipped none 1 Standard.serviceMesh.toCheck rfl (by decide)
    exact ⟨_, hevaluation, rfl⟩
  · refine hunasked none withoutMeshCheck ?_
    exact .cons ⟨rfl, fun _ => rfl⟩ (.cons ⟨rfl, fun h => absurd h (by decide)⟩ (.cons ⟨rfl, fun _ => rfl⟩ .nil))

end Inspection

end Preflight

import Preflight.Proofs.Accounting
import Preflight.Proofs.Protocols
import Preflight.Proofs.Schedule

/-! # The evaluations of a run
What one evaluation gives, left alone or cut off by a cancellation from outside, and which evaluations a run is
made of. As long as no check cancels the run, an evaluation depends on the others through the instant of its start
only. -/
namespace Preflight

def Check.NeverCancels (c : Check) : Prop := ∀ u, (c.evaluate u).NeverCancels

theorem Check.NeverCancels.attempt {c : Check} (h : c.NeverCancels) (u : Upgrade) : (c.attempt u).NeverCancels := by
  refine (Program.neverCancels_ofExcept _).bind fun applies => ?_
  split
  · exact (h u).map some
  · trivial

namespace Inspection

variable {i : Inspection} {c : Check}

/-- Left alone, the check does not cancel the run, be it that it is not evaluated. -/
def SparedBy (i : Inspection) (c : Check) : Prop :=
  i.settings.isSkipped c.about.id = false → (c.attempt i.effectiveUpgrade).NeverCancelsOn i.cluster

/-- Left alone, the run is cancelled by none of its checks. -/
def Uncancelled (i : Inspection) : Prop := ∀ c ∈ i.catalog.checks, i.SparedBy c

theorem sparedBy_of_neverCancels (i : Inspection) (hc : c.NeverCancels) : i.SparedBy c :=
  fun _ => (hc.attempt _).on _

theorem uncancelled_of_neverCancels (h : ∀ c ∈ i.catalog.checks, c.NeverCancels) : i.Uncancelled :=
  fun c hc => i.sparedBy_of_neverCancels (h c hc)

def duration (i : Inspection) (c : Check) : Nat := (i.evaluate none 0 0 c).finish

def durationAt (i : Inspection) (k : Nat) : Nat := (i.catalog.checks[k]?.map i.duration).getD 0

def startOf (i : Inspection) (k : Nat) : Nat := Timetable.start i.settings.concurrency.toNat i.durationAt k

def finishOf (i : Inspection) (k : Nat) : Nat := Timetable.finish i.settings.concurrency.toNat i.durationAt k

theorem finishOf_eq (i : Inspection) (k : Nat) : i.finishOf k = i.startOf k + i.durationAt k :=
  Timetable.finish_eq _ _ _

theorem durationAt_of_getElem? {k : Nat} (hc : i.catalog.checks[k]? = some c) : i.durationAt k = i.duration c := by
  rw [durationAt, hc]
  rfl

@[simp] theorem evaluate_checkId (i : Inspection) (stop : Option Stop) (position start : Nat) (c : Check) :
    (i.evaluate stop position start c).checkId = c.about.id := by
  unfold evaluate
  dsimp only
  split <;> rfl

theorem evaluate_of_skipped (h : i.settings.isSkipped c.about.id = true) (stop : Option Stop)
    (position start : Nat) :
    i.evaluate stop position start c =
      { checkId := c.about.id, start, finish := start, reads := 0, outcome := .skipped skippedBySettings,
        cancelledAt := none } := by
  unfold evaluate
  exact if_pos h

theorem evaluate_of_not_skipped (h : i.settings.isSkipped c.about.id = false) (stop : Option Stop)
    (position start : Nat) :
    i.evaluate stop position start c =
      let ending := (c.attempt i.effectiveUpgrade).run i.cluster position stop start
      { checkId := c.about.id, start, finish := ending.finish, reads := ending.reads,
        outcome := i.outcomeOf c.about.id ending.result, cancelledAt := ending.cancelledAt } := by
  unfold evaluate
  exact if_neg (by rw [h]; exact Bool.false_ne_true)

theorem duration_of_skipped (h : i.settings.isSkipped c.about.id = true) : i.duration c = 0 := by
  rw [duration, evaluate_of_skipped h]

theorem duration_of_not_skipped (hc : i.SparedBy c) (h : i.settings.isSkipped c.about.id = false) :
    i.duration c = (c.attempt i.effectiveUpgrade).duration i.cluster := by
  rw [duration, evaluate_of_not_skipped h, Program.run_none (hc h)]
  exact Nat.zero_add _

theorem duration_of_not_applicable (h : c.applies i.effectiveUpgrade = .ok false) : i.duration c = 0 := by
  cases hs : i.settings.isSkipped c.about.id with
  | true => exact duration_of_skipped hs
  | false =>
    rw [duration, evaluate_of_not_skipped hs]
    simp only [Check.attempt, h]
    rfl

/-- An evaluation that nothing cancels depends on its start in no other way than by being later. -/
theorem evaluate_none (hc : i.SparedBy c) (position start : Nat) :
    i.evaluate none position start c =
      { i.evaluate none 0 0 c with start := start, finish := start + i.duration c } := by
  cases hs : i.settings.isSkipped c.about.id with
  | true => simp only [evaluate_of_skipped hs, duration_of_skipped hs, Nat.add_zero]
  | false => simp only [evaluate_of_not_skipped hs, duration_of_not_skipped hc hs, Program.run_none (hc hs)]

theorem evaluate_none_cancelledAt_iff (i : Inspection) (position start : Nat) (c : Check) :
    (i.evaluate none position start c).cancelledAt = none ↔ i.SparedBy c := by
  cases hs : i.settings.isSkipped c.about.id with
  | true =>
    rw [evaluate_of_skipped hs]
    exact iff_of_true rfl fun hs' => absurd (hs.symm.trans hs') (by decide)
  | false =>
    rw [evaluate_of_not_skipped hs]
    exact (Program.run_none_cancelledAt_iff _ _ _ _).trans ⟨fun h _ => h, fun h => h hs⟩

theorem evaluate_outside_of_lt (hc : c.NeverCancels) {instant start : Nat} (position : Nat)
    (hlt : start + i.duration c < instant) :
    i.evaluate (some (.outside instant)) position start c = i.evaluate none position start c := by
  cases hs : i.settings.isSkipped c.about.id with
  | true => rw [evaluate_of_skipped hs, evaluate_of_skipped hs]
  | false =>
    rw [duration_of_not_skipped (i.sparedBy_of_neverCancels hc) hs] at hlt
    rw [evaluate_of_not_skipped hs, evaluate_of_not_skipped hs, Program.run_outside_of_lt _ start hlt]

/-- An evaluation that a cancellation precedes or cuts off. -/
theorem evaluate_outside_of_gt (hc : c.NeverCancels) (hs : i.settings.isSkipped c.about.id = false)
    {instant start : Nat} (position : Nat) (hgt : instant ≤ start ∨ instant < start + i.duration c) :
    (i.evaluate (some (.outside instant)) position start c).outcome = .errored "operation cancelled" := by
  rw [evaluate_of_not_skipped hs]
  have hresult : ((c.attempt i.effectiveUpgrade).run i.cluster position (some (.outside instant)) start).result =
      .error .cancelled := by
    by_cases hle : instant ≤ start
    · simp only [Check.attempt, Program.run, Stop.passage_outside, if_pos hle]
    · have hlt : instant < start + (c.attempt i.effectiveUpgrade).duration i.cluster := by
        rw [← duration_of_not_skipped (i.sparedBy_of_neverCancels hc) hs]
        omega
      exact Program.run_outside_of_gt (hc.attempt i.effectiveUpgrade) position start (by omega) hlt
  dsimp only
  rw [hresult]
  rfl

/-- Up to the instant of the cancellation an evaluation takes the time that it takes when nothing cancels it. -/
theorem evaluate_outside_min_finish (hc : i.SparedBy c) (instant position start : Nat) :
    min (i.evaluate (some (.outside instant)) position start c).finish instant =
      min (start + i.duration c) instant := by
  cases hs : i.settings.isSkipped c.about.id with
  | true => rw [evaluate_of_skipped hs, duration_of_skipped hs, Nat.add_zero]
  | false =>
    rw [evaluate_of_not_skipped hs, duration_of_not_skipped hc hs]
    exact Program.run_outside_min_finish (hc hs) position start

private theorem evaluate_cancelledAt (hc : i.SparedBy c) (stop : Option Stop) (position start : Nat) :
    (i.evaluate stop position start c).cancelledAt = none := by
  cases hs : i.settings.isSkipped c.about.id with
  | true => rw [evaluate_of_skipped hs]
  | false =>
    rw [evaluate_of_not_skipped hs]
    exact Program.run_cancelledAt (hc hs) _ _ _

/-- The outcome of a check in a run that nothing cancels. -/
def outcomeAlone (i : Inspection) (c : Check) : Outcome := (i.evaluate none 0 0 c).outcome

theorem outcomeAlone_of_skipped (h : i.settings.isSkipped c.about.id = true) :
    i.outcomeAlone c = .skipped skippedBySettings := by rw [outcomeAlone, evaluate_of_skipped h]

theorem outcomeAlone_of_not_skipped (hc : i.SparedBy c) (h : i.settings.isSkipped c.about.id = false) :
    i.outcomeAlone c = i.outcomeOf c.about.id ((c.attempt i.effectiveUpgrade).answer i.cluster) := by
  rw [outcomeAlone, evaluate_of_not_skipped h, Program.run_none (hc h)]

theorem outcomeAlone_of_refused (hs : i.settings.isSkipped c.about.id = false)
    (happlies : c.applies i.effectiveUpgrade = .ok false) : i.outcomeAlone c = .skipped notApplicable := by
  rw [outcomeAlone, evaluate_of_not_skipped hs]
  simp only [Check.attempt, happlies]
  rfl

theorem outcomeAlone_of_applies (hc : i.SparedBy c) (hs : i.settings.isSkipped c.about.id = false)
    (happlies : c.applies i.effectiveUpgrade = .ok true) :
    i.outcomeAlone c =
      i.outcomeOf c.about.id (some <$> (c.evaluate i.effectiveUpgrade).answer i.cluster) := by
  rw [outcomeAlone_of_not_skipped hc hs, ← Program.answer_map]
  simp only [Check.attempt, happlies]
  rfl

theorem evaluate_none_outcome (hc : c.NeverCancels) (position start : Nat) :
    (i.evaluate none position start c).outcome = i.outcomeAlone c := by
  rw [evaluate_none (i.sparedBy_of_neverCancels hc)]
  rfl

/-- When the check at a position has been evaluated in a run that is cancelled at a stop and by nothing else. -/
def finishUntil (i : Inspection) (stop : Option Stop) (k : Nat) : Nat :=
  ((i.evaluationsUntil stop)[k]?.map Evaluation.finish).getD 0

/-- When the check at a position is started in such a run: once all checks have finished that are at least as far
before it as there are workers. -/
def startUntil (i : Inspection) (stop : Option Stop) (k : Nat) : Nat :=
  (Finset.range (k + 1 - i.settings.workers)).sup (i.finishUntil stop)

theorem getElem?_evaluationsUntil (i : Inspection) (stop : Option Stop) (k : Nat) :
    (i.evaluationsUntil stop)[k]? = i.catalog.checks[k]?.map (i.evaluate stop k (i.startUntil stop k)) := by
  apply Pool.getElem?_run (Nat.le_max_left 1 _)
  intro j e he
  change ((i.evaluationsUntil stop)[j]?.map Evaluation.finish).getD 0 = _
  rw [show (i.evaluationsUntil stop)[j]? = some e from he]
  rfl

theorem finishUntil_eq {k : Nat} (hc : i.catalog.checks[k]? = some c) (stop : Option Stop) :
    i.finishUntil stop k = (i.evaluate stop k (i.startUntil stop k) c).finish := by
  rw [finishUntil, getElem?_evaluationsUntil, hc]
  rfl

theorem exists_of_getElem?_evaluationsUntil (h : (i.evaluationsUntil stop)[k]? = some e) :
    ∃ c, i.catalog.checks[k]? = some c ∧ e = i.evaluate stop k (i.startUntil stop k) c := by
  rw [getElem?_evaluationsUntil] at h
  obtain ⟨c, hc, rfl⟩ := Option.map_eq_some_iff.1 h
  exact ⟨c, hc, rfl⟩

theorem checkIds_evaluationsUntil (i : Inspection) (stop : Option Stop) :
    (i.evaluationsUntil stop).map Evaluation.checkId = i.catalog.ids := by
  apply List.ext_getElem?
  intro k
  rw [List.getElem?_map, getElem?_evaluationsUntil, Catalog.ids, List.getElem?_map]
  cases i.catalog.checks[k]? with
  | none => rfl
  | some c => exact congrArg some (evaluate_checkId _ _ _ _ _)

theorem length_evaluationsUntil (i : Inspection) (stop : Option Stop) :
    (i.evaluationsUntil stop).length = i.catalog.checks.length := by
  have hlength := congrArg List.length (i.checkIds_evaluationsUntil stop)
  rw [List.length_map, Catalog.ids, List.length_map] at hlength
  exact hlength

/-- Where the checks cancel the run themselves, it is still one that is cancelled at a stop and by nothing else. -/
theorem exists_evaluationsUntil_eq (i : Inspection) (stop : Option Stop) :
    ∃ s, i.evaluations stop = i.evaluationsUntil s := by
  unfold evaluations
  cases hown : ownStop? 0 (i.evaluationsUntil stop) with
  | none => exact ⟨stop, by simp only [hown]⟩
  | some own => exact ⟨some own, by simp only [hown]⟩

private theorem ownStop?_eq_none {es : List Evaluation} (h : ∀ e ∈ es, e.cancelledAt = none) (position : Nat) :
    ownStop? position es = none := by
  induction es generalizing position with
  | nil => rfl
  | cons e es ih =>
    have hrest := ih (fun e he => h e (List.mem_cons_of_mem _ he)) (position + 1)
    simp only [ownStop?, h e List.mem_cons_self, hrest]

/-- When no check makes use of its chance to cancel the run, nothing else cancels it. -/
theorem evaluations_eq_of_cancelledAt {stop : Option Stop}
    (h : ∀ c ∈ i.catalog.checks, ∀ position start, (i.evaluate stop position start c).cancelledAt = none) :
    i.evaluations stop = i.evaluationsUntil stop := by
  have hnone : ∀ e ∈ i.evaluationsUntil stop, e.cancelledAt = none := by
    intro e he
    obtain ⟨k, hk⟩ := List.mem_iff_getElem?.1 he
    obtain ⟨c, hc, rfl⟩ := exists_of_getElem?_evaluationsUntil hk
    exact h c (List.mem_of_getElem? hc) _ _
  unfold evaluations
  simp only [ownStop?_eq_none hnone]

/-- A run that would not be cancelled if it were left alone is cancelled by nothing but the stop. -/
theorem Uncancelled.evaluations_eq (h : i.Uncancelled) (stop : Option Stop) :
    i.evaluations stop = i.evaluationsUntil stop :=
  evaluations_eq_of_cancelledAt fun c hc _ _ => evaluate_cancelledAt (h c hc) _ _ _

/-- When the checks leave the cancellation of the run to others, nothing else cancels it. -/
theorem evaluations_eq (hchecks : ∀ c ∈ i.catalog.checks, c.NeverCancels) (stop : Option Stop) :
    i.evaluations stop = i.evaluationsUntil stop :=
  (uncancelled_of_neverCancels hchecks).evaluations_eq stop

/-- Left alone, a run is one that nothing cancels just if none of its evaluations cancels it. -/
theorem uncancelled_iff (i : Inspection) : i.Uncancelled ↔ ∀ e ∈ i.evaluationsUntil none, e.cancelledAt = none := by
  constructor
  · intro h e he
    obtain ⟨k, hk⟩ := List.mem_iff_getElem?.1 he
    obtain ⟨c, hc, rfl⟩ := exists_of_getElem?_evaluationsUntil hk
    exact (evaluate_none_cancelledAt_iff i _ _ c).2 (h c (List.mem_of_getElem? hc))
  · intro h c hc
    obtain ⟨k, hk⟩ := List.mem_iff_getElem?.1 hc
    have he : (i.evaluationsUntil none)[k]? = some (i.evaluate none k (i.startUntil none k) c) := by
      rw [getElem?_evaluationsUntil, hk, Option.map_some]
    exact (evaluate_none_cancelledAt_iff i _ _ c).1 (h _ (List.mem_of_getElem? he))

theorem finishUntil_none (h : i.Uncancelled) :
    ∀ k < i.catalog.checks.length, i.finishUntil none k = i.finishOf k := by
  apply Timetable.eq_finish
  intro k hk
  have hc := List.getElem?_eq_getElem hk
  have hfinish := finishUntil_eq hc none
  rw [evaluate_none (h _ (List.getElem_mem hk))] at hfinish
  rw [hfinish, durationAt_of_getElem? hc]
  rfl

theorem startUntil_none (h : i.Uncancelled) {k : Nat} (hk : k < i.catalog.checks.length) :
    i.startUntil none k = i.startOf k := by
  refine Finset.sup_congr rfl fun j hj => ?_
  have hj := Finset.mem_range.1 hj
  exact finishUntil_none h j (by omega)

theorem report_outcomes (i : Inspection) (stop : Option Stop) :
    (i.report stop).outcomes = (i.evaluations stop).map fun e => ⟨e.checkId, e.outcome⟩ :=
  (Report.outcomes_foldl_add _ _).trans (List.nil_append _)

/-- Nothing but the outcomes makes one report of a run different from another. -/
theorem report_eq (i : Inspection) (stop : Option Stop) :
    i.report stop = (Report.ofOutcomes i.timestamp.offsetText (i.report stop).outcomes).withVersions
      i.effectiveUpgrade.current i.effectiveUpgrade.target := by
  rw [report_outcomes]
  rfl

theorem accounted_report (i : Inspection) (stop : Option Stop) : (i.report stop).Accounted :=
  (Report.Built.ofOutcomes _ _).accounted

theorem getElem?_report_outcomes (hchecks : ∀ c ∈ i.catalog.checks, c.NeverCancels) (stop : Option Stop) {k : Nat}
    (hc : i.catalog.checks[k]? = some c) :
    (i.report stop).outcomes[k]? =
      some ⟨c.about.id, (i.evaluate stop k (i.startUntil stop k) c).outcome⟩ := by
  rw [report_outcomes, evaluations_eq hchecks, List.getElem?_map, getElem?_evaluationsUntil, hc]
  simp only [Option.map_some, evaluate_checkId]

theorem outcomes_of_uncancelled (h : i.Uncancelled) :
    (i.report none).outcomes = i.catalog.checks.map fun c => ⟨c.about.id, i.outcomeAlone c⟩ := by
  rw [report_outcomes, h.evaluations_eq]
  apply List.ext_getElem?
  intro k
  rw [List.getElem?_map, List.getElem?_map, getElem?_evaluationsUntil]
  cases hc : i.catalog.checks[k]? with
  | none => rfl
  | some c =>
    rw [Option.map_some, Option.map_some, Option.map_some, evaluate_none (h c (List.mem_of_getElem? hc))]
    simp only [evaluate_checkId, outcomeAlone]

theorem report_none_outcomes (hchecks : ∀ c ∈ i.catalog.checks, c.NeverCancels) :
    (i.report none).outcomes = i.catalog.checks.map fun c => ⟨c.about.id, i.outcomeAlone c⟩ :=
  outcomes_of_uncancelled (uncancelled_of_neverCancels hchecks)

/-- A report has no other outcome for a check than the one which the check has alone. -/
theorem eq_of_mem_report_none (h : i.Uncancelled) (hc : c ∈ i.catalog.checks) {o : CheckOutcome}
    (ho : o ∈ (i.report none).outcomes) (hid : o.checkId = c.about.id) : o = ⟨c.about.id, i.outcomeAlone c⟩ := by
  rw [outcomes_of_uncancelled h] at ho
  obtain ⟨c', hc', rfl⟩ := List.mem_map.1 ho
  have heq : c' = c := List.inj_on_of_nodup_map i.catalog.distinct hc' hc hid
  rw [heq]

theorem outcome?_report_none (h : i.Uncancelled) (hc : c ∈ i.catalog.checks) :
    (i.report none).outcome? c.about.id = some ⟨c.about.id, i.outcomeAlone c⟩ := by
  have hmem : (⟨c.about.id, i.outcomeAlone c⟩ : CheckOutcome) ∈ (i.report none).outcomes := by
    rw [outcomes_of_uncancelled h]
    exact List.mem_map_of_mem hc
  cases hfind : (i.report none).outcome? c.about.id with
  | none => exact absurd (decide_eq_true rfl) (List.find?_eq_none.1 hfind _ hmem)
  | some o =>
    have hid : o.checkId = c.about.id :=
      of_decide_eq_true (List.find?_some (p := fun o : CheckOutcome => decide (o.checkId = c.about.id)) hfind)
    rw [eq_of_mem_report_none h hc (List.mem_of_find?_eq_some hfind) hid]

end Inspection

end Preflight

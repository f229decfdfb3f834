import Preflight.Proofs.SequentialRuns

/-! # Runs that are cancelled from outside
A run that is cancelled at an instant is compared with the run that nothing cancels. Up to that instant the two
are alike: a check that the timetable has finished by then keeps its outcome. All others end with the
cancellation, except for those that the settings leave out. -/
namespace Preflight.Inspection

variable {i : Inspection} {c : Check} {instant : Nat}

private theorem min_sup_congr {f g : Nat → Nat} {n : Nat} (h : ∀ j < n, min (f j) instant = min (g j) instant) :
    min ((Finset.range n).sup f) instant = min ((Finset.range n).sup g) instant := by
  induction n with
  | zero => rfl
  | succ n ih =>
    have hrest := ih fun j hj => h j (by omega)
    have hlast := h n (by omega)
    rw [Finset.range_add_one, Finset.sup_insert, Finset.sup_insert]
    omega

/-- Up to the instant of the cancellation checks finish as in the run that nothing cancels. -/
theorem min_finishUntil_outside (h : i.Uncancelled) (instant : Nat) :
    ∀ k < i.catalog.checks.length,
      min (i.finishUntil (some (.outside instant)) k) instant = min (i.finishOf k) instant := by
  intro k
  induction k using Nat.strongRecOn with
  | ind k ih =>
    intro hk
    have hc := List.getElem?_eq_getElem hk
    have hworkers : 1 ≤ i.settings.workers := Nat.le_max_left 1 _
    have hstart : min (i.startUntil (some (.outside instant)) k) instant = min (i.startOf k) instant :=
      min_sup_congr fun j hj => ih j (by omega) (by omega)
    have hfinish := i.evaluate_outside_min_finish (h _ (List.getElem_mem hk)) instant k
      (i.startUntil (some (.outside instant)) k)
    rw [finishUntil_eq hc, hfinish, finishOf_eq, durationAt_of_getElem? hc]
    omega

theorem min_startUntil_outside (h : i.Uncancelled) (instant : Nat) {k : Nat} (hk : k < i.catalog.checks.length) :
    min (i.startUntil (some (.outside instant)) k) instant = min (i.startOf k) instant := by
  have hworkers : 1 ≤ i.settings.workers := Nat.le_max_left 1 _
  exact min_sup_congr fun j hj => min_finishUntil_outside h instant j (by omega)

/-- The instant is not that at which a check finishes that the settings do not leave out. -/
def Apart (i : Inspection) (instant : Nat) : Prop :=
  ∀ k c, i.catalog.checks[k]? = some c → i.settings.isSkipped c.about.id = false → i.finishOf k ≠ instant

private theorem outcome_outside (hchecks : ∀ c ∈ i.catalog.checks, c.NeverCancels) (hapart : i.Apart instant)
    {k : Nat} (hc : i.catalog.checks[k]? = some c) :
    (i.evaluate (some (.outside instant)) k (i.startUntil (some (.outside instant)) k) c).outcome =
      if i.settings.isSkipped c.about.id = true ∨ i.finishOf k < instant then i.outcomeAlone c
      else .errored "operation cancelled" := by
  have hnever := hchecks c (List.mem_of_getElem? hc)
  cases hs : i.settings.isSkipped c.about.id with
  | true => rw [if_pos (.inl rfl), evaluate_of_skipped hs, outcomeAlone_of_skipped hs]
  | false =>
    have hstart := min_startUntil_outside (uncancelled_of_neverCancels hchecks) instant
      (List.getElem?_eq_some_iff.1 hc).1
    have hne := hapart k c hc hs
    rw [finishOf_eq, durationAt_of_getElem? hc] at hne ⊢
    rcases Nat.lt_or_gt_of_ne hne with hlt | hgt
    · have hbefore : i.startUntil (some (.outside instant)) k + i.duration c < instant := by omega
      rw [if_pos (.inr hlt), evaluate_outside_of_lt hnever k hbefore, evaluate_none_outcome hnever]
    · have hafter : instant ≤ i.startUntil (some (.outside instant)) k ∨
          instant < i.startUntil (some (.outside instant)) k + i.duration c := by omega
      rw [if_neg (by simp only [Bool.false_eq_true, false_or]; omega), evaluate_outside_of_gt hnever hs k hafter]

/-- A check of a run that is cancelled at an instant keeps the outcome of the run that nothing cancels if the
settings leave it out or if it has finished by then. Otherwise it ends with the cancellation: it is never completed
with anything but the finding it would have had, and it is not even asked whether it applies if it was still to be
started. -/
theorem outcomes_of_cancelled_run (i : Inspection) (instant : Nat)
    (hchecks : ∀ c ∈ i.catalog.checks, c.ByProtocol) (hapart : i.Apart instant) :
    (i.report (some (.outside instant))).outcomes.length = i.catalog.size ∧
      ∀ k c, i.catalog.checks[k]? = some c → ∃ o o' : CheckOutcome,
        (i.report none).outcomes[k]? = some o ∧
        (i.report (some (.outside instant))).outcomes[k]? = some o' ∧
        o' = (if i.settings.isSkipped c.about.id = true ∨ i.finishOf k < instant then o
          else ⟨c.about.id, .errored "operation cancelled"⟩) ∧
        (i.settings.isSkipped c.about.id = true ∨ c.applies i.effectiveUpgrade = .ok false → i.duration c = 0) ∧
        (∀ finding, o'.outcome = .completed finding → o.outcome = .completed finding) ∧
        (i.settings.isSkipped c.about.id = true → o'.outcome = .skipped "skipped by configuration") ∧
        (i.settings.isSkipped c.about.id = false → instant ≤ i.startOf k →
          o'.outcome = .errored "operation cancelled") := by
  have hnever : ∀ c ∈ i.catalog.checks, c.NeverCancels := fun c hc => (hchecks c hc).neverCancels
  constructor
  · rw [report_outcomes, evaluations_eq hnever, List.length_map, length_evaluationsUntil]
    rfl
  intro k c hc
  have hundisturbed := getElem?_report_outcomes hnever none hc
  have hcancelled := getElem?_report_outcomes hnever (some (.outside instant)) hc
  rw [evaluate_none_outcome (hnever c (List.mem_of_getElem? hc))] at hundisturbed
  rw [outcome_outside hnever hapart hc] at hcancelled
  refine ⟨_, _, hundisturbed, hcancelled, ?_, ?_, ?_, ?_, ?_⟩
  · split <;> rfl
  · rintro (hs | happlies)
    · exact duration_of_skipped hs
    · exact duration_of_not_applicable happlies
  · intro finding hcompleted
    dsimp only at hcompleted
    split at hcompleted
    · exact hcompleted
    · cases hcompleted
  · intro hs
    exact (if_pos (.inl hs)).trans (outcomeAlone_of_skipped hs)
  · intro hs hstart
    apply if_neg
    rw [hs, finishOf_eq]
    simp only [Bool.false_eq_true, false_or]
    omega

private theorem oneWorker_finishOf (k : Nat) :
    oneWorker.finishOf k = (Finset.range k).sup oneWorker.finishOf + oneWorker.durationAt k := by
  have hconcurrency : oneWorker.settings.concurrency.toNat = 1 := rfl
  rw [finishOf_eq, startOf, Timetable.start, hconcurrency]
  rfl

theorem oneWorker_timetable :
    oneWorker.finishOf 0 = 10 ∧ oneWorker.finishOf 1 = 20 ∧ oneWorker.finishOf 2 = 20 ∧
      oneWorker.finishOf 3 = 30 := by
  have h₀ : oneWorker.finishOf 0 = 10 := by
    rw [oneWorker_finishOf, show oneWorker.durationAt 0 = 10 by decide]
    rfl
  have h₁ : oneWorker.finishOf 1 = 20 := by
    rw [oneWorker_finishOf, show oneWorker.durationAt 1 = 10 by decide]
    simp [Finset.range_add_one, h₀]
  have h₂ : oneWorker.finishOf 2 = 20 := by
    rw [oneWorker_finishOf, show oneWorker.durationAt 2 = 0 by decide]
    simp [Finset.range_add_one, h₀, h₁]
  have h₃ : oneWorker.finishOf 3 = 30 := by
    rw [oneWorker_finishOf, show oneWorker.durationAt 3 = 10 by decide]
    simp [Finset.range_add_one, h₀, h₁, h₂]
  exact ⟨h₀, h₁, h₂, h₃⟩

theorem oneWorker_apart : oneWorker.Apart 15 := by
  obtain ⟨h₀, h₁, h₂, h₃⟩ := oneWorker_timetable
  intro k c hc _
  have hk : k < 4 := (List.getElem?_eq_some_iff.1 hc).1
  obtain rfl | rfl | rfl | rfl : k = 0 ∨ k = 1 ∨ k = 2 ∨ k = 3 := by omega
  · omega
  · omega
  · omega
  · omega

/-- In the middle of the second of three checks: the first keeps its outcome, the second and the last are
cancelled, and the one that is left out stays so. -/
theorem oneWorker_cancelled_run :
    (∀ c ∈ oneWorker.catalog.checks, c.ByProtocol) ∧ oneWorker.Apart 15 ∧
      (oneWorker.report (some (.outside 15))).outcomes[0]? = (oneWorker.report none).outcomes[0]? ∧
      (oneWorker.report (some (.outside 15))).outcomes[1]? =
        some ⟨"workloads.notebook.inventory", .errored "operation cancelled"⟩ ∧
      (∃ o : CheckOutcome, (oneWorker.report (some (.outside 15))).outcomes[2]? = some o ∧
        o.outcome = .skipped "skipped by configuration") ∧
      (oneWorker.report (some (.outside 15))).outcomes[3]? =
        some ⟨"dependencies.authorino.presence", .errored "operation cancelled"⟩ := by
  obtain ⟨h₀, h₁, h₂, h₃⟩ := oneWorker_timetable
  have hrun := (outcomes_of_cancelled_run oneWorker 15 byProtocol_of_mem_oneWorker oneWorker_apart).2
  refine ⟨byProtocol_of_mem_oneWorker, oneWorker_apart, ?_, ?_, ?_, ?_⟩
  · obtain ⟨o, o', ho, ho', heq, -⟩ := hrun 0 _ rfl
    rw [ho, ho', heq, if_pos (.inr (by omega))]
  · obtain ⟨o, o', -, ho', heq, -⟩ := hrun 1 _ rfl
    rw [ho', heq, if_neg (by rw [h₁]; decide)]
    rfl
  · obtain ⟨o, o', -, ho', -, -, -, hskipped, -⟩ := hrun 2 _ rfl
    exact ⟨o', ho', hskipped (by decide)⟩
  · obtain ⟨o, o', -, ho', heq, -⟩ := hrun 3 _ rfl
    rw [ho', heq, if_neg (by rw [h₃]; decide)]
    rfl

end Preflight.Inspection

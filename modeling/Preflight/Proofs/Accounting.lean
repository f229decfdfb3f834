import Preflight.Proofs.Findings

/-! # The accounting of a report
A report takes in its outcomes one at a time and counts each as it comes. At every stage the summary is the tally of
the outcomes that are there: the verdict that is read off the counters is a verdict on the outcomes, and conditions
that hold or are unknown have no weight in it. -/
namespace Preflight

namespace Outcome

def isSkipped : Outcome → Bool
  | .skipped _ => true
  | _ => false

def isErrored : Outcome → Bool
  | .errored _ => true
  | _ => false

def fails : Outcome → Bool
  | .completed finding => finding.fails
  | _ => false

def passes : Outcome → Bool
  | .completed finding => !finding.fails
  | _ => false

theorem failsBlocking_iff {o : Outcome} :
    o.failsBlocking = true ↔
      ∃ f, o = .completed f ∧ ∃ c ∈ f.conditions, c.status = .false ∧ c.impact = .blocking := by
  cases o with
  | skipped reason => simp [failsBlocking]
  | completed finding =>
    simp [failsBlocking, Finding.failsBlocking, Condition.failsBlocking, Condition.fails]
  | errored message => simp [failsBlocking]

private theorem isErrored_iff {o : Outcome} : o.isErrored = true ↔ ∃ message, o = .errored message := by
  cases o <;> simp [isErrored]

private theorem fails_of_failsBlocking {o : Outcome} (h : o.failsBlocking = true) : o.fails = true := by
  obtain ⟨f, rfl, c, hc, hstatus, -⟩ := failsBlocking_iff.1 h
  exact List.any_eq_true.2 ⟨c, hc, decide_eq_true hstatus⟩

theorem classes_eq_one (o : Outcome) :
    (if o.passes = true then 1 else 0) + (if o.fails = true then 1 else 0) +
      (if o.isSkipped = true then 1 else 0) + (if o.isErrored = true then 1 else 0) = 1 := by
  cases o with
  | skipped reason => rfl
  | completed finding => cases hf : finding.fails <;> simp [passes, fails, isSkipped, isErrored, hf]
  | errored message => rfl

end Outcome

namespace Finding

/-- The finding with nothing left of its conditions but those that fail. -/
def failures (f : Finding) : Finding := { f with conditions := f.conditions.filter Condition.fails }

@[simp] theorem fails_failures (f : Finding) : f.failures.fails = f.fails := by
  simp only [fails, failures, List.any_filter, Bool.and_self]

@[simp] theorem failsBlocking_failures (f : Finding) : f.failures.failsBlocking = f.failsBlocking := by
  have hfails : ∀ c : Condition, (c.fails && c.failsBlocking) = c.failsBlocking := by
    intro c
    simp only [Condition.failsBlocking, ← Bool.and_assoc, Bool.and_self]
  simp only [failsBlocking, failures, List.any_filter, hfails]

end Finding

namespace Outcome

/-- The outcome with nothing left of its conditions but those that fail. -/
def failures : Outcome → Outcome
  | .completed finding => .completed finding.failures
  | other => other

@[simp] theorem passes_failures (o : Outcome) : o.failures.passes = o.passes := by
  cases o <;> simp [failures, passes]

@[simp] theorem fails_failures (o : Outcome) : o.failures.fails = o.fails := by
  cases o <;> simp [failures, fails]

@[simp] theorem failsBlocking_failures (o : Outcome) : o.failures.failsBlocking = o.failsBlocking := by
  cases o <;> simp [failures, failsBlocking]

@[simp] theorem isSkipped_failures (o : Outcome) : o.failures.isSkipped = o.isSkipped := by cases o <;> rfl

@[simp] theorem isErrored_failures (o : Outcome) : o.failures.isErrored = o.isErrored := by cases o <;> rfl

end Outcome

namespace Summary

/-- The number of outcomes of each class. -/
def tally (outcomes : List Outcome) : Summary where
  total := outcomes.length
  passed := outcomes.countP Outcome.passes
  failed := outcomes.countP Outcome.fails
  blocking := outcomes.countP Outcome.failsBlocking
  skipped := outcomes.countP Outcome.isSkipped
  errored := outcomes.countP Outcome.isErrored

theorem count_tally (outcomes : List Outcome) (o : Outcome) :
    (tally outcomes).count o = tally (outcomes ++ [o]) := by
  cases o with
  | skipped reason =>
    simp [count, tally, Outcome.passes, Outcome.fails, Outcome.failsBlocking, Outcome.isSkipped, Outcome.isErrored]
  | completed finding =>
    cases hf : finding.fails <;> cases hb : finding.failsBlocking <;>
      simp [count, tally, Outcome.passes, Outcome.fails, Outcome.failsBlocking, Outcome.isSkipped,
        Outcome.isErrored, hf, hb]
  | errored message =>
    simp [count, tally, Outcome.passes, Outcome.fails, Outcome.failsBlocking, Outcome.isSkipped, Outcome.isErrored]

private theorem total_tally (outcomes : List Outcome) :
    (tally outcomes).total =
      (tally outcomes).passed + (tally outcomes).failed + (tally outcomes).skipped + (tally outcomes).errored := by
  induction outcomes with
  | nil => rfl
  | cons o outcomes ih =>
    have hclass := o.classes_eq_one
    simp only [tally, List.length_cons, List.countP_cons] at ih ⊢
    omega

private theorem blocking_tally_le (outcomes : List Outcome) : (tally outcomes).blocking ≤ (tally outcomes).failed :=
  List.countP_mono_left fun _ _ => Outcome.fails_of_failsBlocking

theorem tally_outcomes (outcomes : List CheckOutcome) :
    tally (outcomes.map CheckOutcome.outcome) =
      { total := outcomes.length
        passed := outcomes.countP fun o => o.outcome.passes
        failed := outcomes.countP fun o => o.outcome.fails
        blocking := outcomes.countP fun o => o.outcome.failsBlocking
        skipped := outcomes.countP fun o => o.outcome.isSkipped
        errored := outcomes.countP fun o => o.outcome.isErrored } := by
  simp only [tally, List.length_map, List.countP_map, Function.comp_def]

/-- A tally is that of the failing conditions alone. -/
theorem tally_failures (outcomes : List Outcome) : tally (outcomes.map Outcome.failures) = tally outcomes := by
  simp [tally, List.countP_map, Function.comp_def]

end Summary

namespace Report

/-- The reports that begin empty, or with some outcomes at once, and take in further outcomes one at a time. -/
inductive Built : Report → Prop
  | empty (timestamp : String) : Built (empty timestamp)
  | ofOutcomes (timestamp : String) (outcomes : List CheckOutcome) : Built (ofOutcomes timestamp outcomes)
  | add {r : Report} (h : Built r) (o : CheckOutcome) : Built (r.add o)

def Accounted (r : Report) : Prop := r.summary = .tally (r.outcomes.map CheckOutcome.outcome)

theorem Accounted.add {r : Report} (h : r.Accounted) (o : CheckOutcome) : (r.add o).Accounted := by
  unfold Accounted at h ⊢
  simp only [Report.add, h, Summary.count_tally, List.map_append, List.map_cons, List.map_nil]

private theorem Accounted.foldl_add {r : Report} (h : r.Accounted) (outcomes : List CheckOutcome) :
    (outcomes.foldl Report.add r).Accounted := by
  induction outcomes generalizing r with
  | nil => exact h
  | cons o outcomes ih => exact ih (h.add o)

theorem accounted_empty (timestamp : String) : (empty timestamp).Accounted := rfl

theorem Built.accounted {r : Report} (h : r.Built) : r.Accounted := by
  induction h with
  | empty timestamp => exact accounted_empty timestamp
  | ofOutcomes timestamp outcomes => exact (accounted_empty timestamp).foldl_add outcomes
  | add _ o ih => exact ih.add o

/-- To take in outcomes changes nothing about a report but its outcomes and its summary. -/
theorem Accounted.foldl_add_eq {r : Report} (h : r.Accounted) (outcomes : List CheckOutcome) :
    outcomes.foldl Report.add r =
      { r with
        summary := .tally ((r.outcomes ++ outcomes).map CheckOutcome.outcome)
        outcomes := r.outcomes ++ outcomes } := by
  induction outcomes generalizing r with
  | nil => rw [List.foldl_nil, List.append_nil, ← h]
  | cons o outcomes ih =>
    have hrest := ih (h.add o)
    simp only [Report.add, List.append_assoc, List.singleton_append] at hrest
    exact hrest

theorem ofOutcomes_eq (timestamp : String) (outcomes : List CheckOutcome) :
    ofOutcomes timestamp outcomes =
      { timestamp, summary := .tally (outcomes.map CheckOutcome.outcome), outcomes } :=
  Accounted.foldl_add_eq (accounted_empty timestamp) outcomes

variable {r : Report}

theorem Accounted.hasBlockingFailures_iff (h : r.Accounted) :
    r.hasBlockingFailures = true ↔ ∃ o ∈ r.outcomes, ∃ f, o.outcome = .completed f ∧
      ∃ c ∈ f.conditions, c.status = .false ∧ c.impact = .blocking := by
  unfold hasBlockingFailures
  rw [decide_eq_true_iff, h]
  simp only [Summary.tally, List.countP_map, List.countP_pos_iff, Function.comp_apply, Outcome.failsBlocking_iff]

private theorem Accounted.hasErrors_iff (h : r.Accounted) :
    r.hasErrors = true ↔ ∃ o ∈ r.outcomes, ∃ message, o.outcome = .errored message := by
  unfold hasErrors
  rw [decide_eq_true_iff, h]
  simp only [Summary.tally, List.countP_map, List.countP_pos_iff, Function.comp_apply, Outcome.isErrored_iff]

/-- Reports that differ in no failing condition have the same summary. -/
theorem Accounted.summary_eq {r' : Report} (h : r.Accounted) (h' : r'.Accounted)
    (hfailures : r'.outcomes.map (fun o => o.outcome.failures) = r.outcomes.map fun o => o.outcome.failures) :
    r'.summary = r.summary := by
  have htally : ∀ outcomes : List CheckOutcome, Summary.tally (outcomes.map CheckOutcome.outcome) =
      .tally (outcomes.map fun o => o.outcome.failures) := by
    intro outcomes
    rw [← Summary.tally_failures, List.map_map]
    rfl
  rw [h, h', htally, htally, hfailures]

/-- In a report that takes in its outcomes one at a time each counter is the number of outcomes of its class, and so
both verdicts are verdicts on the outcomes. Conditions that do not fail, whatever their impact, change neither. -/
theorem summary_of_built (h : r.Built) :
    r.summary.total = r.outcomes.length ∧
      r.summary.total = r.summary.passed + r.summary.failed + r.summary.skipped + r.summary.errored ∧
      r.summary.passed = r.outcomes.countP (fun o => o.outcome.passes) ∧
      r.summary.failed = r.outcomes.countP (fun o => o.outcome.fails) ∧
      r.summary.blocking = r.outcomes.countP (fun o => o.outcome.failsBlocking) ∧
      r.summary.skipped = r.outcomes.countP (fun o => o.outcome.isSkipped) ∧
      r.summary.errored = r.outcomes.countP (fun o => o.outcome.isErrored) ∧
      r.summary.blocking ≤ r.summary.failed ∧
      (r.hasBlockingFailures = true ↔ ∃ o ∈ r.outcomes, ∃ f, o.outcome = .completed f ∧
        ∃ c ∈ f.conditions, c.status = .false ∧ c.impact = .blocking) ∧
      (r.hasErrors = true ↔ ∃ o ∈ r.outcomes, ∃ message, o.outcome = .errored message) ∧
      ∀ r' : Report, r'.Built →
        r'.outcomes.map (fun o => o.outcome.failures) = r.outcomes.map (fun o => o.outcome.failures) →
        r'.summary.failed = r.summary.failed ∧ r'.summary.blocking = r.summary.blocking ∧
          r'.hasBlockingFailures = r.hasBlockingFailures ∧ r'.hasErrors = r.hasErrors := by
  have haccounted := h.accounted
  have hsummary : r.summary = .tally (r.outcomes.map CheckOutcome.outcome) := haccounted
  have hcounters := Summary.tally_outcomes r.outcomes
  rw [← hsummary] at hcounters
  refine ⟨?_, ?_, ?_, ?_, ?_, ?_, ?_, ?_, haccounted.hasBlockingFailures_iff, haccounted.hasErrors_iff, ?_⟩
  · rw [hcounters]
  · rw [hsummary]
    exact Summary.total_tally _
  · rw [hcounters]
  · rw [hcounters]
  · rw [hcounters]
  · rw [hcounters]
  · rw [hcounters]
  · rw [hsummary]
    exact Summary.blocking_tally_le _
  · intro r' hbuilt hfailures
    have heq := haccounted.summary_eq hbuilt.accounted hfailures
    unfold hasBlockingFailures hasErrors
    rw [heq]
    exact ⟨rfl, rfl, rfl, rfl⟩

private def findingOf (conditions : List Condition) : Finding :=
  { group := .component, kind := "kserve", name := "removal", description := "", conditions }

private def conditionOf (status : ConditionStatus) (impact : Impact) : Condition :=
  { type := Condition.configured, status, reason := .deprecated, message := "", impact }

def threeOutcomes : Report :=
  (ofOutcomes "T"
    [⟨"a", .completed (findingOf [conditionOf .unknown .blocking])⟩,
      ⟨"b", .completed (findingOf [conditionOf .true .blocking, conditionOf .false .advisory])⟩]).add
    ⟨"c", .errored "operation cancelled"⟩

/-- The blocking conditions that hold or are unknown block nothing. -/
theorem threeOutcomes_summary :
    threeOutcomes.Built ∧ threeOutcomes.summary.total = 3 ∧ threeOutcomes.summary.passed = 1 ∧
      threeOutcomes.summary.failed = 1 ∧ threeOutcomes.summary.blocking = 0 ∧ threeOutcomes.summary.errored = 1 ∧
      threeOutcomes.hasErrors = true := by
  have hbuilt : threeOutcomes.Built := (Built.ofOutcomes "T" _).add _
  obtain ⟨htotal, -, hpassed, hfailed, hblocking, -, herrored, -, -, herrors, -⟩ := summary_of_built hbuilt
  refine ⟨hbuilt, htotal, hpassed, hfailed, hblocking, herrored, ?_⟩
  exact herrors.2 ⟨_, List.mem_append_right _ (List.mem_singleton.2 rfl), _, rfl⟩

end Report

end Preflight

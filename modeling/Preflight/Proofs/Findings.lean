import Preflight.Check.Workload
import Preflight.Run.Inspection

/-! # Findings and reports
A finding grows by the conditions that are stated; nothing else that is done to it, and no date, changes what fails.
A report counts what its outcomes are, whatever their dates. -/
namespace Preflight

namespace Finding

@[simp] theorem conditions_state (f : Finding) (c : Condition) : (f.state c).conditions = f.conditions ++ [c] := rfl

@[simp] theorem failsBlocking_state (f : Finding) (c : Condition) :
    (f.state c).failsBlocking = (f.failsBlocking || c.failsBlocking) := by
  unfold Finding.failsBlocking
  rw [conditions_state, List.any_append, List.any_cons, List.any_nil, Bool.or_false]

@[simp] theorem failsBlocking_annotate (f : Finding) (key value : String) :
    (f.annotate key value).failsBlocking = f.failsBlocking := rfl

@[simp] theorem fails_dated (f : Finding) (t : Timestamp) : (f.dated t).fails = f.fails := by
  unfold Finding.fails Finding.dated
  rw [List.any_map]
  rfl

@[simp] theorem failsBlocking_dated (f : Finding) (t : Timestamp) :
    (f.dated t).failsBlocking = f.failsBlocking := by
  unfold Finding.failsBlocking Finding.dated
  rw [List.any_map]
  rfl

@[simp] theorem annotationOf_state (f : Finding) (c : Condition) (key : String) :
    (f.state c).annotationOf key = f.annotationOf key := rfl

@[simp] theorem annotationOf_annotate (f : Finding) (key value key' : String) :
    (f.annotate key value).annotationOf key' = if key' = key then some value else f.annotationOf key' :=
  Dictionary.find?_insert _ _ _ _

@[simp] theorem annotationOf_setAffected (f : Finding) (type : TypeMeta) (objects : List ObjectRef) (key : String) :
    (f.setAffected type objects).annotationOf key = f.annotationOf key := rfl

theorem dated_dated (f : Finding) (s t : Timestamp) : (f.dated s).dated t = f.dated t := by
  unfold dated
  rw [List.map_map]
  rfl

theorem withImpact_dated (f : Finding) (impact : Impact) (t : Timestamp) :
    (f.withImpact impact).dated t = (f.dated t).withImpact impact := by
  unfold dated withImpact
  rw [List.map_map, List.map_map]
  rfl

end Finding

@[simp] theorem CheckMeta.failsBlocking_stampedFinding (m : CheckMeta) (u : Upgrade) :
    (m.stampedFinding u).failsBlocking = false := rfl

@[simp] theorem WorkloadCheck.failsBlocking_affect {α : Type} [Item α] (type : TypeMeta) (items : List α)
    (f : Finding) : (affect type items f).failsBlocking = f.failsBlocking := by
  unfold affect
  split <;> rfl

namespace Outcome

def dated (o : Outcome) (t : Timestamp) : Outcome :=
  match o with
  | .completed finding => .completed (finding.dated t)
  | other => other

def failsBlocking : Outcome → Bool
  | .completed finding => finding.failsBlocking
  | _ => false

end Outcome

namespace Summary

theorem count_dated (s : Summary) (o : Outcome) (t : Timestamp) : s.count (o.dated t) = s.count o := by
  cases o with
  | skipped reason => rfl
  | completed finding => simp only [Outcome.dated, count, Finding.fails_dated, Finding.failsBlocking_dated]
  | errored message => rfl

theorem blocking_count (s : Summary) (o : Outcome) :
    (s.count o).blocking = s.blocking + if o.failsBlocking = true then 1 else 0 := by
  cases o with
  | skipped reason => rfl
  | completed finding =>
    by_cases hf : finding.fails = true <;> by_cases hb : finding.failsBlocking = true <;>
      simp [count, Outcome.failsBlocking, hf, hb]
  | errored message => rfl

end Summary

namespace Report

def dated (r : Report) (t : Timestamp) : Report :=
  { r with timestamp := t.offsetText, outcomes := r.outcomes.map fun o => ⟨o.checkId, o.outcome.dated t⟩ }

theorem outcomes_foldl_add (r : Report) (outcomes : List CheckOutcome) :
    (outcomes.foldl add r).outcomes = r.outcomes ++ outcomes := by
  induction outcomes generalizing r with
  | nil => rw [List.append_nil]; rfl
  | cons o outcomes ih =>
    rw [List.foldl_cons, ih]
    simp only [add, List.append_assoc, List.singleton_append]

theorem blocking_foldl_add (r : Report) (outcomes : List CheckOutcome) :
    (outcomes.foldl add r).summary.blocking =
      r.summary.blocking + outcomes.countP (fun o => o.outcome.failsBlocking) := by
  induction outcomes generalizing r with
  | nil => rfl
  | cons o outcomes ih =>
    have hadd : (r.add o).summary.blocking = r.summary.blocking + if o.outcome.failsBlocking = true then 1 else 0 :=
      Summary.blocking_count _ _
    rw [List.foldl_cons, ih, hadd, List.countP_cons]
    omega

theorem ofOutcomes_dated (stamp : String) (outcomes : List CheckOutcome) (t : Timestamp) :
    ofOutcomes t.offsetText (outcomes.map fun o => ⟨o.checkId, o.outcome.dated t⟩) =
      (ofOutcomes stamp outcomes).dated t := by
  suffices ∀ r : Report, (outcomes.map fun o => ⟨o.checkId, o.outcome.dated t⟩).foldl add (r.dated t) =
      (outcomes.foldl add r).dated t from this (empty stamp)
  induction outcomes with
  | nil => exact fun r => rfl
  | cons o outcomes ih =>
    intro r
    rw [List.map_cons, List.foldl_cons, List.foldl_cons, ← ih]
    congr 1
    simp only [add, dated, Summary.count_dated, List.map_append, List.map_cons, List.map_nil]

end Report

end Preflight

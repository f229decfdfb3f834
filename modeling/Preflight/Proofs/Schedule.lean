import Mathlib
import Preflight.Run.Pool

/-! # When the jobs of a pool run
A job is started as soon as all jobs that are at least the width of the pool before it have finished. A pool whose
jobs take a time of their own, whenever they are started, therefore keeps a timetable that depends on these times
and on nothing else. -/
namespace Preflight

namespace Pool

variable {ι β : Type} {width : Nat} {finish : Nat → Nat}

/-- Jobs up to a position have been started, of which those from `left` on are in flight and the others, which
finished at the given instants, are collected. -/
structure Holds (finish : Nat → Nat) (left position : Nat) (p : Pool) : Prop where
  inFlight : p.inFlight = (List.range' left (position - left)).map finish
  clock : p.clock = (Finset.range left).sup finish

theorem Holds.makeRoom {position : Nat} {p : Pool} (h : Holds finish (position - width) position p)
    (hw : 0 < width) : Holds finish (position + 1 - width) position (p.makeRoom width) := by
  have hlength : p.inFlight.length = position - (position - width) := by simp [h.inFlight]
  unfold Pool.makeRoom
  by_cases hroom : p.inFlight.length < width
  · rw [if_pos hroom]
    have hnone : position + 1 - width = position - width := by omega
    exact hnone ▸ h
  · rw [if_neg hroom]
    have hfull : position - (position - width) = position - (position + 1 - width) + 1 := by omega
    have hnext : position + 1 - width = (position - width) + 1 := by omega
    have hflight := h.inFlight
    rw [hfull, List.range'_succ, List.map_cons] at hflight
    rw [hflight]
    refine ⟨by rw [hnext], ?_⟩
    change max p.clock (finish (position - width)) = _
    rw [hnext, Finset.range_add_one, Finset.sup_insert, h.clock, max_comm]

theorem Holds.start {left position : Nat} {p : Pool} (h : Holds finish left position p) (hle : left ≤ position) :
    Holds finish left (position + 1) (p.start (finish position)) := by
  refine ⟨?_, h.clock⟩
  change p.inFlight ++ [finish position] = _
  have hlast : position + 1 - left = (position - left) + 1 := by omega
  rw [h.inFlight, hlast, List.range'_concat, List.map_append, List.map_singleton, Nat.one_mul,
    Nat.add_sub_cancel' hle]

private theorem getElem?_runFrom (hw : 0 < width) (job : Nat → Nat → ι → β) (finishOf : β → Nat) (jobs : List ι)
    {position : Nat} {p : Pool} (hp : Holds finish (position - width) position p)
    (hfinish : ∀ k b, (runFrom width job finishOf position p jobs)[k]? = some b →
      finish (position + k) = finishOf b)
    (k : Nat) : (runFrom width job finishOf position p jobs)[k]? =
      jobs[k]?.map (job (position + k) ((Finset.range (position + k + 1 - width)).sup finish)) := by
  induction jobs generalizing position p k with
  | nil => rfl
  | cons i jobs ih =>
    have hroom := hp.makeRoom hw
    cases k with
    | zero => simp only [runFrom, hroom.clock, List.getElem?_cons_zero, Nat.add_zero, Option.map_some]
    | succ k =>
      have hstart := hroom.start (by omega)
      rw [show finish position = _ from hfinish 0 _ rfl] at hstart
      have hrest := ih hstart (fun k b hb => by rw [Nat.add_right_comm]; exact hfinish (k + 1) b hb) k
      rw [Nat.add_right_comm position 1 k] at hrest
      exact hrest

/-- A job is handed the latest instant at which one of the jobs finishes that are at least the width before it. -/
theorem getElem?_run (hw : 0 < width) {job : Nat → Nat → ι → β} {finishOf : β → Nat} {jobs : List ι}
    (hfinish : ∀ k b, (run width job finishOf jobs)[k]? = some b → finish k = finishOf b) (k : Nat) :
    (run width job finishOf jobs)[k]? = jobs[k]?.map (job k ((Finset.range (k + 1 - width)).sup finish)) := by
  have hempty : Holds finish (0 - width) 0 {} := ⟨by simp, by simp⟩
  have hrun := getElem?_runFrom hw job finishOf jobs hempty
    (fun k b hb => by rw [Nat.zero_add]; exact hfinish k b hb) k
  rw [Nat.zero_add] at hrun
  exact hrun

/-- Pools with equally many workers whose jobs are related one by one, so that related jobs finish alike whenever
they are started together, start all jobs together. -/
theorem forall₂_runFrom {ι' β' : Type} {R : ι → ι' → Prop} {S : β → β' → Prop} {job : Nat → Nat → ι → β}
    {job' : Nat → Nat → ι' → β'} {finishOf : β → Nat} {finishOf' : β' → Nat}
    (hjob : ∀ i i', R i i' → ∀ position now, S (job position now i) (job' position now i'))
    (hfinish : ∀ b b', S b b' → finishOf b = finishOf' b') {jobs : List ι} {jobs' : List ι'}
    (h : List.Forall₂ R jobs jobs') (position : Nat) (p : Pool) :
    List.Forall₂ S (runFrom width job finishOf position p jobs)
      (runFrom width job' finishOf' position p jobs') := by
  induction h generalizing position p with
  | nil => exact .nil
  | cons hi _ ih =>
    have hhead := hjob _ _ hi position (p.makeRoom width).clock
    simp only [runFrom, hfinish _ _ hhead]
    exact .cons hhead (ih _ _)

end Pool

namespace Timetable

/-- When the job at a position finishes, if as many jobs as the width says, and at least one, are in flight. -/
def finish (width : Nat) (duration : Nat → Nat) (k : Nat) : Nat :=
  ((Finset.range (k + 1 - max 1 width)).attach.sup fun j => finish width duration j.1) + duration k
termination_by k
decreasing_by
  have := Finset.mem_range.1 j.2
  omega

def start (width : Nat) (duration : Nat → Nat) (k : Nat) : Nat :=
  (Finset.range (k + 1 - max 1 width)).sup (finish width duration)

theorem finish_eq (width : Nat) (duration : Nat → Nat) (k : Nat) :
    finish width duration k = start width duration k + duration k := by
  rw [finish, start, Finset.sup_attach (Finset.range (k + 1 - max 1 width)) (finish width duration)]

/-- The finishing times are the only ones that follow the rule of the timetable. -/
theorem eq_finish {width count : Nat} {duration f : Nat → Nat}
    (h : ∀ k < count, f k = (Finset.range (k + 1 - max 1 width)).sup f + duration k) :
    ∀ k < count, f k = finish width duration k := by
  intro k
  induction k using Nat.strongRecOn with
  | ind k ih =>
    intro hk
    rw [h k hk, finish_eq, start]
    congr 1
    refine Finset.sup_congr rfl fun j hj => ?_
    have hj := Finset.mem_range.1 hj
    exact ih j (by omega) (by omega)

variable {width width' : Nat}

end Timetable

end Preflight

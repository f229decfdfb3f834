import Preflight.Run.Cancellation

/-! # Programs and the cancellation of their run
A program that does not cancel the run by itself has, on a cluster that stands still, an answer, a duration and a
number of reads of its own. A run that nothing cancels gives just these, from whatever instant on. A run that is
cancelled at an instant gives them as well if the program has ended by then, and otherwise nothing but the
cancellation. -/
namespace Preflight

namespace Stop

/-- A cancellation from outside, which goes before everything that a check does at its instant. -/
def outside (instant : Nat) : Stop := { time := instant }

private theorem isOver_outside (instant position now : Nat) :
    isOver (some (.outside instant)) position now = decide (instant ≤ now) := by
  change (decide (instant < now) || (decide (instant = now) && decide (0 ≤ position))) = _
  rw [Bool.eq_iff_iff]
  simp only [Nat.zero_le, decide_true, Bool.and_true, Bool.or_eq_true, decide_eq_true_eq]
  omega

theorem passage_none (position now duration : Nat) :
    passage none position now duration = .through (now + duration) := rfl

theorem passage_outside (instant position now duration : Nat) :
    passage (some (.outside instant)) position now duration =
      if instant ≤ now then .refused
      else if instant < now + duration then .brokenOff instant
      else .through (now + duration) := by
  change (if isOver (some (.outside instant)) position now = true then Passage.refused
    else if instant < now + duration then .brokenOff instant else .through (now + duration)) = _
  simp only [isOver_outside, decide_eq_true_eq]

theorem passage_outside_through {instant now duration : Nat} (position : Nat) (hnow : now < instant)
    (hend : now + duration ≤ instant) :
    passage (some (.outside instant)) position now duration = .through (now + duration) := by
  rw [passage_outside, if_neg (by omega), if_neg (by omega)]

/-- What becomes of an operation, by when it begins and when it would end. -/
theorem passage_outside_cases (instant position now duration : Nat) :
    (passage (some (.outside instant)) position now duration = .refused ∧ instant ≤ now) ∨
      (passage (some (.outside instant)) position now duration = .brokenOff instant ∧
        now < instant ∧ instant < now + duration) ∨
      (passage (some (.outside instant)) position now duration = .through (now + duration) ∧
        now < instant ∧ now + duration ≤ instant) := by
  rw [passage_outside]
  by_cases hover : instant ≤ now
  · exact .inl ⟨if_pos hover, hover⟩
  · by_cases hlong : instant < now + duration
    · exact .inr (.inl ⟨by rw [if_neg hover, if_pos hlong], by omega, hlong⟩)
    · exact .inr (.inr ⟨by rw [if_neg hover, if_neg hlong], by omega, by omega⟩)

end Stop

namespace Program

variable {α β : Type}

def NeverCancels : Program α → Prop
  | .done _ | .fail _ => True
  | .list _ _ next => ∀ listing, (next listing).NeverCancels
  | .subscriptions next => ∀ listing, (next listing).NeverCancels
  | .wait _ next => next.NeverCancels
  | .managerAvailable next => ∀ available, (next available).NeverCancels
  | .cancel _ => False

/-- As long as its reads are answered by the cluster, the program does not cancel the run. -/
def NeverCancelsOn (cluster : Cluster) : Program α → Prop
  | .done _ | .fail _ => True
  | .list type options next => (next (cluster.list type options)).NeverCancelsOn cluster
  | .subscriptions next => (next cluster.subscriptions).NeverCancelsOn cluster
  | .wait _ next => next.NeverCancelsOn cluster
  | .managerAvailable next => (next cluster.managerAvailable).NeverCancelsOn cluster
  | .cancel _ => False

theorem NeverCancels.on {p : Program α} (h : p.NeverCancels) (cluster : Cluster) : p.NeverCancelsOn cluster := by
  induction p with
  | done a => trivial
  | fail e => trivial
  | list type options next ih => exact ih _ (h _)
  | subscriptions next ih => exact ih _ (h _)
  | wait milliseconds next ih => exact ih h
  | managerAvailable next ih => exact ih _ (h _)
  | cancel next ih => exact h.elim

def answer (cluster : Cluster) : Program α → Except Fault α
  | .done a => .ok a
  | .fail e => .error e
  | .list type options next => (next (cluster.list type options)).answer cluster
  | .subscriptions next => (next cluster.subscriptions).answer cluster
  | .wait _ next => next.answer cluster
  | .managerAvailable next => (next cluster.managerAvailable).answer cluster
  | .cancel next => next.answer cluster

def duration (cluster : Cluster) : Program α → Nat
  | .done _ | .fail _ => 0
  | .list type options next => cluster.latency + (next (cluster.list type options)).duration cluster
  | .subscriptions next => cluster.latency + (next cluster.subscriptions).duration cluster
  | .wait milliseconds next => milliseconds + next.duration cluster
  | .managerAvailable next => (next cluster.managerAvailable).duration cluster
  | .cancel next => next.duration cluster

def readCount (cluster : Cluster) : Program α → Nat
  | .done _ | .fail _ => 0
  | .list type options next => (next (cluster.list type options)).readCount cluster + 1
  | .subscriptions next => (next cluster.subscriptions).readCount cluster + 1
  | .wait _ next => next.readCount cluster
  | .managerAvailable next => (next cluster.managerAvailable).readCount cluster
  | .cancel next => next.readCount cluster

theorem NeverCancels.bind {p : Program α} {f : α → Program β} (hp : p.NeverCancels)
    (hf : ∀ a, (f a).NeverCancels) : (p >>= f).NeverCancels := by
  change (p.bind f).NeverCancels
  induction p with
  | done a => exact hf a
  | fail e => trivial
  | list type options next ih => exact fun listing => ih listing (hp listing)
  | subscriptions next ih => exact fun listing => ih listing (hp listing)
  | wait milliseconds next ih => exact ih hp
  | managerAvailable next ih => exact fun available => ih available (hp available)
  | cancel next ih => exact hp.elim

theorem NeverCancels.map {p : Program α} (f : α → β) (hp : p.NeverCancels) : (f <$> p).NeverCancels :=
  hp.bind fun _ => trivial

theorem neverCancels_ofExcept (r : Except Fault α) : (ofExcept r).NeverCancels := by cases r <;> trivial

theorem neverCancels_readIn (context : String) (r : Except ReadFailure α) : (readIn context r).NeverCancels := by
  cases r <;> trivial

theorem neverCancels_listing (context : String) (type : ResourceType) (options : ListOptions) :
    (listing context type options).NeverCancels := fun _ => neverCancels_readIn _ _

theorem neverCancels_singleton (type : ResourceType) : (singleton type).NeverCancels :=
  fun _ => neverCancels_readIn _ _

theorem neverCancels_allSubscriptions : allSubscriptions.NeverCancels := fun _ => neverCancels_readIn _ _

theorem answer_bind (cluster : Cluster) (p : Program α) (f : α → Program β) :
    (p >>= f).answer cluster = p.answer cluster >>= fun a => (f a).answer cluster := by
  change (p.bind f).answer cluster = _
  induction p with
  | done a => rfl
  | fail e => rfl
  | list type options next ih => exact ih _
  | subscriptions next ih => exact ih _
  | wait milliseconds next ih => exact ih
  | managerAvailable next ih => exact ih _
  | cancel next ih => exact ih

theorem answer_map (cluster : Cluster) (f : α → β) (p : Program α) :
    (f <$> p).answer cluster = f <$> p.answer cluster :=
  answer_bind cluster p fun a => .done (f a)

theorem bind_done (p : Program α) : p.bind .done = p := by
  induction p with
  | done a => rfl
  | fail e => rfl
  | list type options next ih => exact congrArg (Program.list type options) (funext ih)
  | subscriptions next ih => exact congrArg Program.subscriptions (funext ih)
  | wait milliseconds next ih => exact congrArg (Program.wait milliseconds) ih
  | managerAvailable next ih => exact congrArg Program.managerAvailable (funext ih)
  | cancel next ih => exact congrArg Program.cancel ih

theorem run_none {p : Program α} {cluster : Cluster} (h : p.NeverCancelsOn cluster) (position now : Nat) :
    p.run cluster position none now =
      { result := p.answer cluster, finish := now + p.duration cluster, reads := p.readCount cluster,
        cancelledAt := none } := by
  induction p generalizing now with
  | done a => rfl
  | fail e => rfl
  | list type options next ih =>
    simp only [run, Stop.passage_none, ih _ h, answer, duration, readCount, Nat.add_assoc]
  | subscriptions next ih =>
    simp only [run, Stop.passage_none, ih _ h, answer, duration, readCount, Nat.add_assoc]
  | wait milliseconds next ih =>
    simp only [run, Stop.passage_none, ih h, answer, duration, readCount, Nat.add_assoc]
  | managerAvailable next ih => exact ih _ h now
  | cancel next ih => exact h.elim

theorem run_none_cancelledAt_iff (p : Program α) (cluster : Cluster) (position now : Nat) :
    (p.run cluster position none now).cancelledAt = none ↔ p.NeverCancelsOn cluster := by
  induction p generalizing now with
  | done a => exact iff_of_true rfl trivial
  | fail e => exact iff_of_true rfl trivial
  | list type options next ih =>
    simp only [run, Stop.passage_none]
    exact ih _ _
  | subscriptions next ih =>
    simp only [run, Stop.passage_none]
    exact ih _ _
  | wait milliseconds next ih =>
    simp only [run, Stop.passage_none]
    exact ih _
  | managerAvailable next ih => exact ih _ _
  | cancel next ih => exact iff_of_false (Option.some_ne_none now) id

/-- A run that nothing cancels up to the end of the first of two programs goes on with the second one, unless the
first one failed. -/
theorem run_none_bind {p : Program α} (h : p.NeverCancels) (f : α → Program β) (cluster : Cluster)
    (position now : Nat) :
    ((p >>= f).run cluster position none now).result =
      p.answer cluster >>= fun a => ((f a).run cluster position none (now + p.duration cluster)).result := by
  change ((p.bind f).run cluster position none now).result = _
  induction p generalizing now with
  | done a => rfl
  | fail e => rfl
  | list type options next ih =>
    simp only [Program.bind, run, Stop.passage_none, ih _ (h _), answer, duration, Nat.add_assoc]
  | subscriptions next ih =>
    simp only [Program.bind, run, Stop.passage_none, ih _ (h _), answer, duration, Nat.add_assoc]
  | wait milliseconds next ih =>
    simp only [Program.bind, run, Stop.passage_none, ih h, answer, duration, Nat.add_assoc]
  | managerAvailable next ih => exact ih _ (h _) now
  | cancel next ih => exact h.elim

/-- However a run is cancelled, and be it by the program itself, it gives the answer or the cancellation. -/
theorem run_result (p : Program α) (cluster : Cluster) (position : Nat) (stop : Option Stop) (now : Nat) :
    (p.run cluster position stop now).result = p.answer cluster ∨
      (p.run cluster position stop now).result = .error .cancelled := by
  induction p generalizing stop now with
  | done a => exact .inl rfl
  | fail e => exact .inl rfl
  | list type options next ih =>
    unfold run
    split
    · exact .inr rfl
    · exact .inr rfl
    · exact ih _ _ _
  | subscriptions next ih =>
    unfold run
    split
    · exact .inr rfl
    · exact .inr rfl
    · exact ih _ _ _
  | wait milliseconds next ih =>
    unfold run
    split
    · exact .inr rfl
    · exact .inr rfl
    · exact ih _ _
  | managerAvailable next ih => exact ih _ _ _
  | cancel next ih => exact ih _ _

theorem run_cancelledAt {p : Program α} {cluster : Cluster} (h : p.NeverCancelsOn cluster) (position : Nat)
    (stop : Option Stop) (now : Nat) : (p.run cluster position stop now).cancelledAt = none := by
  induction p generalizing now with
  | done a => rfl
  | fail e => rfl
  | list type options next ih =>
    unfold run
    split
    · rfl
    · rfl
    · exact ih _ h _
  | subscriptions next ih =>
    unfold run
    split
    · rfl
    · rfl
    · exact ih _ h _
  | wait milliseconds next ih =>
    unfold run
    split
    · rfl
    · rfl
    · exact ih h _
  | managerAvailable next ih => exact ih _ h now
  | cancel next ih => exact h.elim

variable {cluster : Cluster} {instant : Nat}

/-- A run that is cancelled after the program has ended. -/
theorem run_outside_of_lt {p : Program α} (position now : Nat) (hlt : now + p.duration cluster < instant) :
    p.run cluster position (some (.outside instant)) now = p.run cluster position none now := by
  induction p generalizing now with
  | done a => rfl
  | fail e => rfl
  | list type options next ih =>
    simp only [duration] at hlt
    have hread : Stop.passage (some (.outside instant)) position now cluster.latency =
        .through (now + cluster.latency) :=
      Stop.passage_outside_through position (by omega) (by omega)
    have hrest := ih (cluster.list type options) (now + cluster.latency) (by omega)
    simp only [run, Stop.passage_none, hread, hrest]
  | subscriptions next ih =>
    simp only [duration] at hlt
    have hread : Stop.passage (some (.outside instant)) position now cluster.latency =
        .through (now + cluster.latency) :=
      Stop.passage_outside_through position (by omega) (by omega)
    have hrest := ih cluster.subscriptions (now + cluster.latency) (by omega)
    simp only [run, Stop.passage_none, hread, hrest]
  | wait milliseconds next ih =>
    simp only [duration] at hlt
    have hwait : Stop.passage (some (.outside instant)) position now milliseconds = .through (now + milliseconds) :=
      Stop.passage_outside_through position (by omega) (by omega)
    have hrest := ih (now + milliseconds) (by omega)
    simp only [run, Stop.passage_none, hwait, hrest]
  | managerAvailable next ih => exact ih _ now hlt
  | cancel next ih => rfl

/-- A run that is cancelled while the program is under way. -/
theorem run_outside_of_gt {p : Program α} (h : p.NeverCancels) (position now : Nat) (hnow : now ≤ instant)
    (hgt : instant < now + p.duration cluster) :
    (p.run cluster position (some (.outside instant)) now).result = .error .cancelled := by
  induction p generalizing now with
  | done a => simp only [duration] at hgt; omega
  | fail e => simp only [duration] at hgt; omega
  | list type options next ih =>
    simp only [duration] at hgt
    simp only [run]
    rcases Stop.passage_outside_cases instant position now cluster.latency with ⟨hp, -⟩ | ⟨hp, -⟩ | ⟨hp, -, hread⟩
    · simp only [hp]
    · simp only [hp]
    · simp only [hp]
      exact ih _ (h _) _ hread (by omega)
  | subscriptions next ih =>
    simp only [duration] at hgt
    simp only [run]
    rcases Stop.passage_outside_cases instant position now cluster.latency with ⟨hp, -⟩ | ⟨hp, -⟩ | ⟨hp, -, hread⟩
    · simp only [hp]
    · simp only [hp]
    · simp only [hp]
      exact ih _ (h _) _ hread (by omega)
  | wait milliseconds next ih =>
    simp only [duration] at hgt
    simp only [run]
    rcases Stop.passage_outside_cases instant position now milliseconds with ⟨hp, -⟩ | ⟨hp, -⟩ | ⟨hp, -, hwait⟩
    · simp only [hp]
    · simp only [hp]
    · simp only [hp]
      exact ih h _ hwait (by omega)
  | managerAvailable next ih => exact ih _ (h _) now hnow hgt
  | cancel next ih => exact h.elim

/-- Up to the instant of its cancellation a run takes the time that the program takes when it is left alone. This
holds also of a program that would end at that very instant, whether it still gives its answer or not. -/
theorem run_outside_min_finish {p : Program α} (h : p.NeverCancelsOn cluster) (position now : Nat) :
    min (p.run cluster position (some (.outside instant)) now).finish instant =
      min (now + p.duration cluster) instant := by
  induction p generalizing now with
  | done a => rfl
  | fail e => rfl
  | list type options next ih =>
    simp only [run, duration]
    rcases Stop.passage_outside_cases instant position now cluster.latency with ⟨hp, _⟩ | ⟨hp, _⟩ | ⟨hp, -⟩
    · simp only [hp]
      omega
    · simp only [hp]
      omega
    · simp only [hp]
      rw [ih _ h, Nat.add_assoc]
  | subscriptions next ih =>
    simp only [run, duration]
    rcases Stop.passage_outside_cases instant position now cluster.latency with ⟨hp, _⟩ | ⟨hp, _⟩ | ⟨hp, -⟩
    · simp only [hp]
      omega
    · simp only [hp]
      omega
    · simp only [hp]
      rw [ih _ h, Nat.add_assoc]
  | wait milliseconds next ih =>
    simp only [run, duration]
    rcases Stop.passage_outside_cases instant position now milliseconds with ⟨hp, _⟩ | ⟨hp, _⟩ | ⟨hp, -⟩
    · simp only [hp]
      omega
    · simp only [hp]
      omega
    · simp only [hp]
      rw [ih h, Nat.add_assoc]
  | managerAvailable next ih => exact ih _ h now
  | cancel next ih => exact h.elim

end Program

end Preflight

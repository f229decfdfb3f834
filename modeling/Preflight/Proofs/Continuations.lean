import Preflight.Proofs.Answers

/-! # What is left of a run
In a run that nothing cancels from outside, a program that goes on from the answer of another one spends the time
and the reads of the other one and then runs as if the answer had been there from the start. A failed read leaves
nothing but its fault. -/
namespace Preflight

theorem map_eq_error_iff {ε α β : Type} {r : Except ε α} {f : α → β} {e : ε} :
    r.map f = .error e ↔ r = .error e := by
  cases r with
  | error e' =>
    change Except.error e' = Except.error e ↔ Except.error e' = Except.error e
    rw [Except.error.injEq, Except.error.injEq]
  | ok a => exact iff_of_false nofun nofun

namespace Ending

variable {α β : Type}

/-- The ending of a program some reads of which came before it. -/
def after (reads : Nat) (e : Ending α) : Ending α := { e with reads := e.reads + reads }

def map (f : α → β) (e : Ending α) : Ending β := { e with result := f <$> e.result }

theorem after_after (m n : Nat) (e : Ending α) : (e.after m).after n = e.after (m + n) := by
  simp only [after, Nat.add_assoc]

theorem map_result_eq_error_iff {f : α → β} {e : Ending α} {fault : Fault} :
    (e.map f).result = .error fault ↔ e.result = .error fault :=
  map_eq_error_iff

theorem map_result_of_ok {f : α → β} {e : Ending α} {a : α} (h : e.result = .ok a) :
    (e.map f).result = .ok (f a) := by
  unfold map
  rw [h]
  rfl

end Ending

namespace Program

variable {α β : Type} {cluster : Cluster}

@[simp] theorem ofExcept_ok_bind (a : α) (f : α → Program β) : (ofExcept (.ok a) >>= f) = f a := rfl

@[simp] theorem ofExcept_error_bind (e : Fault) (f : α → Program β) : (ofExcept (.error e) >>= f) = .fail e := rfl

/-- A program that does not cancel the run is left with its answer, after its own time and its own reads. -/
theorem run_none_bind_eq {p : Program α} (h : p.NeverCancelsOn cluster) (f : α → Program β) (position now : Nat) :
    (p >>= f).run cluster position none now =
      ((ofExcept (p.answer cluster) >>= f).run cluster position none (now + p.duration cluster)).after
        (p.readCount cluster) := by
  change (p.bind f).run cluster position none now = _
  induction p generalizing now with
  | done a => rfl
  | fail e => rfl
  | list type options next ih =>
    have hrest := ih (cluster.list type options) h (now + cluster.latency)
    simp only [Program.bind, run, Stop.passage_none, hrest, answer, duration, readCount, ← Nat.add_assoc]
    rfl
  | subscriptions next ih =>
    have hrest := ih cluster.subscriptions h (now + cluster.latency)
    simp only [Program.bind, run, Stop.passage_none, hrest, answer, duration, readCount, ← Nat.add_assoc]
    rfl
  | wait milliseconds next ih =>
    have hrest := ih h (now + milliseconds)
    simp only [Program.bind, run, Stop.passage_none, hrest, answer, duration, readCount, ← Nat.add_assoc]
  | managerAvailable next ih => exact ih cluster.managerAvailable h now
  | cancel next ih => exact h.elim

theorem run_map (f : α → β) (p : Program α) (cluster : Cluster) (position : Nat) (stop : Option Stop) (now : Nat) :
    (f <$> p).run cluster position stop now = (p.run cluster position stop now).map f := by
  change (p.bind fun a => .done (f a)).run cluster position stop now = _
  induction p generalizing stop now with
  | done a => rfl
  | fail e => rfl
  | list type options next ih =>
    simp only [Program.bind, run]
    cases Stop.passage stop position now cluster.latency with
    | refused => rfl
    | brokenOff time => rfl
    | through time => simp only [ih, Ending.map]
  | subscriptions next ih =>
    simp only [Program.bind, run]
    cases Stop.passage stop position now cluster.latency with
    | refused => rfl
    | brokenOff time => rfl
    | through time => simp only [ih, Ending.map]
  | wait milliseconds next ih =>
    simp only [Program.bind, run]
    cases Stop.passage stop position now milliseconds with
    | refused => rfl
    | brokenOff time => rfl
    | through time => exact ih _ _
  | managerAvailable next ih => exact ih _ _ _
  | cancel next ih => simp only [Program.bind, run, ih, Ending.map]

theorem duration_readIn (context : String) (r : Except ReadFailure α) :
    (readIn context r).duration cluster = 0 := by
  cases r <;> rfl

theorem readCount_readIn (context : String) (r : Except ReadFailure α) :
    (readIn context r).readCount cluster = 0 := by
  cases r <;> rfl

/-- A program that is one read takes the time of one read, whatever comes out of it. -/
theorem run_read_bind {p : Program α} (h : p.NeverCancelsOn cluster)
    (hduration : p.duration cluster = cluster.latency)
    (hreads : p.readCount cluster = 1) {answer : Except Fault α} (hanswer : p.answer cluster = answer)
    (f : α → Program β) (position now : Nat) :
    (p >>= f).run cluster position none now =
      ((ofExcept answer >>= f).run cluster position none (now + cluster.latency)).after 1 := by
  rw [run_none_bind_eq h, hanswer, hduration, hreads]

theorem run_singleton_bind (type : ResourceType) (f : Option Object → Program β) (position now : Nat) :
    (singleton type >>= f).run cluster position none now =
      ((ofExcept (cluster.only type) >>= f).run cluster position none (now + cluster.latency)).after 1 := by
  apply run_read_bind ((neverCancels_singleton type).on cluster)
  · simp only [singleton, duration, duration_readIn, Nat.add_zero]
  · simp only [singleton, readCount, readCount_readIn, Nat.zero_add]
  · exact answer_singleton cluster type

theorem run_listing_bind (context : String) (type : ResourceType) (options : ListOptions)
    (f : List Object → Program β) (position now : Nat) :
    (listing context type options >>= f).run cluster position none now =
      ((ofExcept ((orEmpty (cluster.list type options)).mapError (.read context)) >>= f).run cluster position none
        (now + cluster.latency)).after 1 := by
  apply run_read_bind ((neverCancels_listing context type options).on cluster)
  · simp only [listing, duration, duration_readIn, Nat.add_zero]
  · simp only [listing, readCount, readCount_readIn, Nat.zero_add]
  · exact answer_listing cluster context type options

theorem run_allSubscriptions_bind (f : List Subscription → Program β) (position now : Nat) :
    (allSubscriptions >>= f).run cluster position none now =
      ((ofExcept (cluster.subscriptions.mapError (.read "listing subscriptions")) >>= f).run cluster position none
        (now + cluster.latency)).after 1 := by
  apply run_read_bind (neverCancels_allSubscriptions.on cluster)
  · simp only [allSubscriptions, duration, duration_readIn, Nat.add_zero]
  · simp only [allSubscriptions, readCount, readCount_readIn, Nat.zero_add]
  · exact answer_allSubscriptions cluster

end Program

end Preflight

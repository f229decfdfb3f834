import Preflight.Check.Program

/-! # Running a program under cancellation
Time is counted from the beginning of a run and passes only in reads and waits. A run is cancelled at one
instant; what several checks do at that very instant is ordered by the position of the checks. -/
namespace Preflight

/-- The cancellation of a run: at an instant, before what the checks from a position on do at that instant. -/
structure Stop where
  time : Nat
  position : Nat := 0
  deriving DecidableEq

namespace Stop

/-- Whether a check at a position finds the run cancelled at an instant. -/
def isOver (stop : Option Stop) (position now : Nat) : Bool :=
  match stop with
  | none => false
  | some s => s.time < now || (s.time = now && s.position ≤ position)

def earlier (a b : Stop) : Stop :=
  if a.time < b.time ∨ (a.time = b.time ∧ a.position ≤ b.position) then a else b

end Stop

inductive Passage where
  | refused
  | brokenOff (time : Nat)
  | through (time : Nat)
  deriving DecidableEq

/-- The passage of an operation that begins at an instant and takes some time. -/
def Stop.passage (stop : Option Stop) (position now duration : Nat) : Passage :=
  if isOver stop position now then .refused
  else match stop with
    | none => .through (now + duration)
    | some s => if s.time < now + duration then .brokenOff s.time else .through (now + duration)

/-- How a program ended. -/
structure Ending (α : Type) where
  result : Except Fault α
  finish : Nat
  /-- The reads that were begun. -/
  reads : Nat := 0
  /-- The instant at which the program itself cancelled the run. -/
  cancelledAt : Option Nat := none

namespace Program

/-- Runs the program of the check at a position, from an instant on. -/
def run {α : Type} (cluster : Cluster) (position : Nat) : Program α → Option Stop → Nat → Ending α
  | .done a, _, now => { result := .ok a, finish := now }
  | .fail e, _, now => { result := .error e, finish := now }
  | .list type options next, stop, now =>
    match Stop.passage stop position now cluster.latency with
    | .refused => { result := .error .cancelled, finish := now }
    | .brokenOff time => { result := .error .cancelled, finish := time, reads := 1 }
    | .through time =>
      let rest := (next (cluster.list type options)).run cluster position stop time
      { rest with reads := rest.reads + 1 }
  | .subscriptions next, stop, now =>
    match Stop.passage stop position now cluster.latency with
    | .refused => { result := .error .cancelled, finish := now }
    | .brokenOff time => { result := .error .cancelled, finish := time, reads := 1 }
    | .through time =>
      let rest := (next cluster.subscriptions).run cluster position stop time
      { rest with reads := rest.reads + 1 }
  | .wait milliseconds next, stop, now =>
    match Stop.passage stop position now milliseconds with
    | .refused => { result := .error .cancelled, finish := now }
    | .brokenOff time => { result := .error .cancelled, finish := time }
    | .through time => next.run cluster position stop time
  | .managerAvailable next, stop, now => (next cluster.managerAvailable).run cluster position stop now
  | .cancel next, _, now =>
    { next.run cluster position (some ⟨now, position⟩) now with cancelledAt := some now }

end Program

end Preflight

/-! # The pool of workers
Jobs are started in order, a bounded number at once. A slot becomes free only when the oldest job in flight has
finished, however early the others do, because results are collected in order. -/
namespace Preflight

/-- The instant up to which the pool has come, and when the jobs in flight finish, oldest first. -/
structure Pool where
  clock : Nat := 0
  inFlight : List Nat := []

namespace Pool

/-- Waits until there is room for another job: until the oldest has finished, if the pool is full. -/
def makeRoom (width : Nat) (p : Pool) : Pool :=
  if p.inFlight.length < width then p
  else match p.inFlight with
    | [] => p
    | finish :: rest => ⟨max p.clock finish, rest⟩

def start (p : Pool) (finish : Nat) : Pool := { p with inFlight := p.inFlight ++ [finish] }

/-- Takes jobs in order, each of which is a function of its position and the instant of its start. -/
def runFrom {ι β : Type} (width : Nat) (job : Nat → Nat → ι → β) (finish : β → Nat) :
    (position : Nat) → Pool → List ι → List β
  | _, _, [] => []
  | position, p, i :: rest =>
    let p := p.makeRoom width
    let b := job position p.clock i
    b :: runFrom width job finish (position + 1) (p.start (finish b)) rest

def run {ι β : Type} (width : Nat) (job : Nat → Nat → ι → β) (finish : β → Nat) (jobs : List ι) : List β :=
  runFrom width job finish 0 {} jobs

end Pool

end Preflight

import Preflight.Check.Fault
import Preflight.Cluster.Inventory

/-! # Programs
What a check does when it is evaluated: reads of the cluster, waits, and a result or a fault. Programs are data,
so that what one reads can be told without running it. Reads and waits are guarded: one that begins when the run
is cancelled does not take place, one during which it is cancelled is broken off, and either way the program
ends with `Fault.cancelled`. -/
namespace Preflight

inductive Program (α : Type) where
  | done (a : α)
  | fail (e : Fault)
  | list (type : ResourceType) (options : ListOptions) (next : Except ReadFailure (List Object) → Program α)
  | subscriptions (next : Except ReadFailure (List Subscription) → Program α)
  /-- Waits; a wait of no time only looks whether the run is cancelled. -/
  | wait (milliseconds : Nat) (next : Program α)
  /-- Asks whether the lifecycle manager can be reached, which is no read. -/
  | managerAvailable (next : Bool → Program α)
  /-- Cancels the run. -/
  | cancel (next : Program α)

namespace Program

def bind {α β : Type} : Program α → (α → Program β) → Program β
  | .done a, f => f a
  | .fail e, _ => .fail e
  | .list type options next, f => .list type options fun r => (next r).bind f
  | .subscriptions next, f => .subscriptions fun r => (next r).bind f
  | .wait milliseconds next, f => .wait milliseconds (next.bind f)
  | .managerAvailable next, f => .managerAvailable fun b => (next b).bind f
  | .cancel next, f => .cancel (next.bind f)

instance : Monad Program where
  pure := .done
  bind := .bind

def ofExcept {α : Type} : Except Fault α → Program α
  | .ok a => .done a
  | .error e => .fail e

/-- The answer to a read, whose failure gets a context. -/
def readIn {α : Type} (context : String) : Except ReadFailure α → Program α
  | .ok a => .done a
  | .error e => .fail (.read context e)

/-- The objects of a type. A type that is not installed has none. -/
def listing (context : String) (type : ResourceType) (options : ListOptions) : Program (List Object) :=
  .list type options fun r => readIn context (orEmpty r)

/-- The only object of a type, if there is one. -/
def singleton (type : ResourceType) : Program (Option Object) :=
  .list type {} fun r => readIn ("fetching " ++ type.kind) (singletonOf type r)

def allSubscriptions : Program (List Subscription) :=
  .subscriptions fun r => readIn "listing subscriptions" r

def isManagerAvailable : Program Bool := .managerAvailable .done

end Program

end Preflight

import Preflight.Check.Fault

/-! # The context of a run
A context can be cancelled through its handle as long as that is held. A context that is replaced by one without
a handle never is, even while the old handle stays around. -/
namespace Preflight

structure RunContext where
  /-- Whether the handle is held. -/
  held : Bool
  /-- Whether the context is the one that the handle belongs to. -/
  attached : Bool
  /-- Whether the handle was used. -/
  tripped : Bool := false
  deriving DecidableEq

namespace RunContext

def background : RunContext := ⟨false, false, false⟩

def cancellable : RunContext := ⟨true, true, false⟩

def isCancelled (c : RunContext) : Bool := c.attached && c.tripped

/-- Uses the handle if it is held. -/
def cancel (c : RunContext) : RunContext := { c with tripped := c.tripped || c.held }

def dropHandle (c : RunContext) : RunContext := { c with held := false }

/-- Replaces the context by one that cannot be cancelled and leaves the handle as it is. -/
def detach (c : RunContext) : RunContext := { c with attached := false }

/-- An operation that takes no time, unless the context is cancelled. -/
def guard {α : Type} (c : RunContext) (a : α) : Except Fault α := if c.isCancelled then .error .cancelled else .ok a

/-- An operation of some duration, when the handle, if it is held, is used some time after the operation began. -/
def race {α : Type} (c : RunContext) (duration cancelAfter : Nat) (a : α) : Except Fault α :=
  if c.isCancelled || (c.attached && c.held && cancelAfter < duration) then .error .cancelled else .ok a

end RunContext

end Preflight

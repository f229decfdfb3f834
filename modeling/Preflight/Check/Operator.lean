import Preflight.Check.Basic

/-! # Checks of operators
An operator check looks for a subscription by name and channel and turns its presence and version into one
condition. Where the lifecycle manager cannot be reached the operator counts as missing. -/
namespace Preflight

structure OperatorCheck where
  about : CheckMeta
  /-- The names that match; with no name in the list it is the kind of the check. -/
  names : List String := []
  /-- The channels that match; with no channel in the list they all do. -/
  channels : List String := []
  /-- The condition for an operator that is found or not, and its version if known. -/
  condition : Bool → String → Except Fault Condition
  gate : Gate := Gate.always

namespace OperatorCheck

/-- An operator has to be there. -/
def presence (kind : String) (found : Bool) (version : String) : Condition :=
  if found then
    { type := Condition.available, status := .true, reason := .resourceFound,
      message := kind ++ " operator installed" ++
        (if version = "" then "" else " (version " ++ version ++ ")") }
  else
    { type := Condition.available, status := .false, reason := .resourceNotFound,
      message := kind ++ " operator not installed" }

/-- The check that the operator which it is named for is there. -/
def forPresence (about : CheckMeta) : OperatorCheck :=
  { about, condition := fun found version => .ok (presence about.kind found version) }

/-- A subscription without a channel is in no list of channels. -/
def isMatch (c : OperatorCheck) (s : Subscription) : Bool :=
  (if c.names = [] then s.name = c.about.kind else c.names.contains s.name) &&
  (c.channels = [] || (s.channel ≠ "" && c.channels.contains s.channel))

def buildCondition (c : OperatorCheck) (found : Bool) (version : String) : Except Fault Condition :=
  (c.condition found version).mapError (.condition c.about.kind)

/-- The finding for the first subscription that matches. -/
def conclude (c : OperatorCheck) (match? : Option Subscription) (finding : Finding) : Except Fault Finding := do
  let version := (match?.map Subscription.installedVersion).getD ""
  let condition ← c.buildCondition match?.isSome version
  let finding := finding.state condition
  return if version = "" then finding else finding.annotate Annotation.installedVersion version

def evaluate (c : OperatorCheck) (u : Upgrade) : Program Finding := do
  let finding := c.about.stampedFinding u
  if ← Program.isManagerAvailable then
    let subscriptions ← Program.allSubscriptions
    Program.ofExcept (c.conclude (subscriptions.find? c.isMatch) finding)
  else
    let condition ← Program.ofExcept (c.buildCondition false "")
    return finding.state { condition with message := Cluster.managerUnavailable }

def toCheck (c : OperatorCheck) : Check := ⟨c.about, fun u => .ok (c.gate u), c.evaluate⟩

end OperatorCheck

end Preflight

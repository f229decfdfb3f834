import Preflight.Check.Component
import Preflight.Check.Operator
import Preflight.Check.Workload
import Preflight.Proofs.Undisturbed

/-! # Checks that a protocol carries out
The three protocols read, wait and decide, but leave the cancellation of the run to others: a check that one of them
carries out does not cancel the run unless its policy does. -/
namespace Preflight

open Program

namespace ComponentCheck

variable {c : ComponentCheck} (hpolicy : ∀ view finding, (c.policy view finding).NeverCancels)
include hpolicy

theorem neverCancels_conclude (u : Upgrade) (singleton : Object) (state : ManagementState) (finding : Finding) :
    (c.conclude u singleton state finding).NeverCancels := by
  unfold conclude
  split
  · refine (neverCancels_singleton _).bind fun found => ?_
    cases found with
    | none => trivial
    | some initialization =>
      dsimp only
      split
      · trivial
      · exact hpolicy _ _
  · exact hpolicy _ _

theorem neverCancels_inspect (u : Upgrade) (singleton : Object) (finding : Finding) :
    (c.inspect u singleton finding).NeverCancels := by
  refine (neverCancels_ofExcept _).bind fun state => ?_
  dsimp only
  split
  · exact neverCancels_conclude hpolicy _ _ _ _
  · trivial

theorem neverCancels_evaluate (u : Upgrade) : (c.evaluate u).NeverCancels := by
  refine (neverCancels_singleton _).bind fun found => ?_
  cases found with
  | none => trivial
  | some singleton => exact neverCancels_inspect hpolicy _ _ _

end ComponentCheck

theorem WorkloadCheck.neverCancels_evaluate {α : Type} [Item α] {c : WorkloadCheck α}
    (hpolicy : ∀ view finding, (c.policy view finding).NeverCancels) (u : Upgrade) :
    (c.evaluate u).NeverCancels :=
  (neverCancels_listing _ _ _).bind fun _ => (neverCancels_ofExcept _).bind fun _ =>
    (hpolicy _ _).bind fun _ => trivial

theorem OperatorCheck.neverCancels_evaluate (c : OperatorCheck) (u : Upgrade) : (c.evaluate u).NeverCancels := by
  refine NeverCancels.bind (fun _ => trivial) fun available => ?_
  split
  · exact neverCancels_allSubscriptions.bind fun _ => neverCancels_ofExcept _
  · exact (neverCancels_ofExcept _).bind fun _ => trivial

namespace Check

/-- The check is carried out by one of the protocols, with a policy that does not cancel the run. -/
inductive ByProtocol : Check → Prop
  | component (c : ComponentCheck) (policy : ∀ view finding, (c.policy view finding).NeverCancels) :
    ByProtocol c.toCheck
  | workload {α : Type} [Item α] (c : WorkloadCheck α)
    (policy : ∀ view finding, (c.policy view finding).NeverCancels) : ByProtocol c.toCheck
  | operator (c : OperatorCheck) : ByProtocol c.toCheck

theorem ByProtocol.neverCancels {c : Check} (h : c.ByProtocol) (u : Upgrade) : (c.evaluate u).NeverCancels := by
  cases h with
  | component c policy => exact c.neverCancels_evaluate policy u
  | workload c policy => exact c.neverCancels_evaluate policy u
  | operator c => exact c.neverCancels_evaluate u

end Check

end Preflight

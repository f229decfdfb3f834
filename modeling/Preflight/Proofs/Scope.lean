import Preflight.Proofs.Protocols

/-! # Scopes
A program that looks at nothing outside a scope cannot tell apart two clusters that agree within it: it has one
answer on both, however they differ elsewhere and however long their reads take. Of the protocols each stays within
the types that it is configured for, as long as its policy does. -/
namespace Preflight

/-- What a program may look at: the objects of some types, and what the lifecycle manager knows of the operators. -/
structure Scope where
  types : List ResourceType := []
  operators : Bool := false

namespace Cluster

/-- A type looks the same on two clusters: the same objects in the same order, served on both or on neither, with
the same failure in the way of reading it, if any. -/
structure AgreesOn (c d : Cluster) (type : ResourceType) : Prop where
  objects : c.inventory.objectsOf type = d.inventory.objectsOf type
  serves : c.inventory.serves type = d.inventory.serves type
  failure : c.inventory.failure? type = d.inventory.failure? type

structure AgreesOnOperators (c d : Cluster) : Prop where
  available : c.managerAvailable = d.managerAvailable
  subscriptions : c.inventory.subscriptions = d.inventory.subscriptions
  failure : c.subscriptionFailure = d.subscriptionFailure

structure AgreesWithin (c d : Cluster) (s : Scope) : Prop where
  types : ∀ type ∈ s.types, c.AgreesOn d type
  operators : s.operators = true → c.AgreesOnOperators d

variable {c d : Cluster}

theorem AgreesOn.list_eq {type : ResourceType} (h : c.AgreesOn d type) (options : ListOptions) :
    c.list type options = d.list type options := by
  unfold list Inventory.list
  rw [h.failure, h.serves, h.objects]

theorem AgreesOnOperators.subscriptions_eq (h : c.AgreesOnOperators d) : c.subscriptions = d.subscriptions := by
  unfold Cluster.subscriptions
  rw [h.available, h.failure, h.subscriptions]

end Cluster

namespace Program

variable {α β : Type} {s : Scope}

def ReadsWithin (s : Scope) : Program α → Prop
  | .done _ | .fail _ => True
  | .list type _ next => type ∈ s.types ∧ ∀ listing, (next listing).ReadsWithin s
  | .subscriptions next => s.operators = true ∧ ∀ listing, (next listing).ReadsWithin s
  | .wait _ next => next.ReadsWithin s
  | .managerAvailable next => s.operators = true ∧ ∀ available, (next available).ReadsWithin s
  | .cancel next => next.ReadsWithin s

theorem ReadsWithin.bind {p : Program α} {f : α → Program β} (hp : p.ReadsWithin s)
    (hf : ∀ a, (f a).ReadsWithin s) : (p >>= f).ReadsWithin s := by
  change (p.bind f).ReadsWithin s
  induction p with
  | done a => exact hf a
  | fail e => trivial
  | list type options next ih => exact ⟨hp.1, fun listing => ih listing (hp.2 listing)⟩
  | subscriptions next ih => exact ⟨hp.1, fun listing => ih listing (hp.2 listing)⟩
  | wait milliseconds next ih => exact ih hp
  | managerAvailable next ih => exact ⟨hp.1, fun available => ih available (hp.2 available)⟩
  | cancel next ih => exact ih hp

theorem readsWithin_ofExcept (r : Except Fault α) : (ofExcept r).ReadsWithin s := by cases r <;> trivial

theorem readsWithin_readIn (context : String) (r : Except ReadFailure α) : (readIn context r).ReadsWithin s := by
  cases r <;> trivial

private theorem readsWithin_listing {type : ResourceType} (h : type ∈ s.types) (context : String)
    (options : ListOptions) :
    (listing context type options).ReadsWithin s := ⟨h, fun _ => readsWithin_readIn _ _⟩

theorem readsWithin_singleton {type : ResourceType} (h : type ∈ s.types) : (singleton type).ReadsWithin s :=
  ⟨h, fun _ => readsWithin_readIn _ _⟩

private theorem readsWithin_allSubscriptions (h : s.operators = true) : allSubscriptions.ReadsWithin s :=
  ⟨h, fun _ => readsWithin_readIn _ _⟩

/-- Two clusters that agree within the scope give every read the same answer, so the program goes the same way on
both. -/
theorem answer_congr {p : Program α} (hp : p.ReadsWithin s) {c d : Cluster} (h : c.AgreesWithin d s) :
    p.answer c = p.answer d := by
  induction p with
  | done a => rfl
  | fail e => rfl
  | list type options next ih =>
    rw [answer, answer, (h.types type hp.1).list_eq options]
    exact ih _ (hp.2 _)
  | subscriptions next ih =>
    rw [answer, answer, (h.operators hp.1).subscriptions_eq]
    exact ih _ (hp.2 _)
  | wait milliseconds next ih => exact ih hp
  | managerAvailable next ih =>
    rw [answer, answer, (h.operators hp.1).available]
    exact ih _ (hp.2 _)
  | cancel next ih => exact ih hp

end Program

open Program

variable {s : Scope}

namespace ComponentCheck

variable {c : ComponentCheck} (hinitialization : c.needsNamespace = true → .initialization ∈ s.types)
  (hpolicy : ∀ view finding, (c.policy view finding).ReadsWithin s)
include hinitialization hpolicy

/-- The second singleton is read only for a check that asks for the namespace. -/
theorem readsWithin_conclude (u : Upgrade) (singleton : Object) (state : ManagementState) (finding : Finding) :
    (c.conclude u singleton state finding).ReadsWithin s := by
  unfold conclude
  split
  · next hneeds =>
    refine (readsWithin_singleton (hinitialization hneeds)).bind fun found => ?_
    cases found with
    | none => trivial
    | some initialization =>
      dsimp only
      split
      · trivial
      · exact hpolicy _ _
  · exact hpolicy _ _

theorem readsWithin_evaluate (hsingleton : c.singleton ∈ s.types) (u : Upgrade) :
    (c.evaluate u).ReadsWithin s := by
  refine (readsWithin_singleton hsingleton).bind fun found => ?_
  cases found with
  | none => trivial
  | some singleton =>
    refine (readsWithin_ofExcept _).bind fun state => ?_
    dsimp only
    split
    · exact readsWithin_conclude hinitialization hpolicy _ _ _ _
    · trivial

end ComponentCheck

theorem WorkloadCheck.readsWithin_evaluate {α : Type} [Item α] {c : WorkloadCheck α}
    (hresource : c.resource ∈ s.types)
    (hpolicy : ∀ view finding, (c.policy view finding).ReadsWithin s) (u : Upgrade) :
    (c.evaluate u).ReadsWithin s :=
  (readsWithin_listing hresource _ _).bind fun _ => (readsWithin_ofExcept _).bind fun _ =>
    (hpolicy _ _).bind fun _ => trivial

theorem OperatorCheck.readsWithin_evaluate (c : OperatorCheck) (hoperators : s.operators = true) (u : Upgrade) :
    (c.evaluate u).ReadsWithin s := by
  have havailable : isManagerAvailable.ReadsWithin s := ⟨hoperators, fun _ => trivial⟩
  refine havailable.bind fun available => ?_
  split
  · exact (readsWithin_allSubscriptions hoperators).bind fun _ => readsWithin_ofExcept _
  · exact (readsWithin_ofExcept _).bind fun _ => trivial

end Preflight

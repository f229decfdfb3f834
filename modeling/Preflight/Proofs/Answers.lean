import Preflight.Proofs.Findings
import Preflight.Proofs.Protocols

/-! # What the protocols answer
On a cluster that stands still each protocol has one answer. Of the component protocol all ways to its answer are
listed in `ComponentCheck.Ends`, in the order in which they are tried, each with what the cluster has to hold for
it; the other two protocols go one way, and an equation for each says which. -/
namespace Preflight

open Program

theorem orEmpty_eq_ok_iff {r : Except ReadFailure (List Object)} {os : List Object} :
    orEmpty r = .ok os ↔ r = .ok os ∨ os = [] ∧ ∃ e : ReadFailure, r = .error e ∧ e.isTypeNotInstalled = true := by
  cases r with
  | error e =>
    cases he : e.isTypeNotInstalled with
    | true =>
      rw [orEmpty, if_pos he]
      constructor
      · intro h
        cases h
        exact .inr ⟨rfl, e, rfl, he⟩
      · rintro (h | ⟨rfl, -⟩)
        · cases h
        · rfl
    | false => simp [orEmpty, he]
  | ok os => simp [orEmpty]

namespace Cluster

def only (cluster : Cluster) (type : ResourceType) : Except Fault (Option Object) :=
  (singletonOf type (cluster.list type {})).mapError (.read ("fetching " ++ type.kind))

variable {cluster : Cluster} {type : ResourceType}

theorem only_of_singleton {o : Object} (h : cluster.list type {} = .ok [o]) : cluster.only type = .ok (some o) := by
  rw [only, h]
  rfl

theorem only_of_error {e : ReadFailure} (h : cluster.list type {} = .error e) (he : e.isTypeNotInstalled = false) :
    cluster.only type = .error (.read ("fetching " ++ type.kind) e) := by
  rw [only, h, singletonOf, orEmpty, he]
  rfl

theorem only_of_uninstalled {e : ReadFailure} (h : cluster.list type {} = .error e)
    (he : e.isTypeNotInstalled = true) : cluster.only type = .ok none := by
  rw [only, h, singletonOf, orEmpty, if_pos he]
  rfl

theorem only_eq_some_iff {o : Object} : cluster.only type = .ok (some o) ↔ cluster.list type {} = .ok [o] := by
  refine ⟨fun h => ?_, only_of_singleton⟩
  cases hlist : cluster.list type {} with
  | error e =>
    cases he : e.isTypeNotInstalled with
    | true =>
      rw [only_of_uninstalled hlist he] at h
      cases h
    | false =>
      rw [only_of_error hlist he] at h
      cases h
  | ok os =>
    unfold only at h
    rw [hlist] at h
    match os, h with
    | [o], rfl => rfl

theorem eq_filter_of_list {options : ListOptions} {os : List Object} (h : cluster.list type options = .ok os) :
    os = (cluster.inventory.objectsOf type).filter options.keeps := by
  unfold list Inventory.list at h
  split at h
  · cases h
  · split at h
    · exact (Except.ok.inj h).symm
    · cases h

theorem eq_objectsOf_of_list {os : List Object} (h : cluster.list type {} = .ok os) :
    os = cluster.inventory.objectsOf type :=
  (eq_filter_of_list h).trans (List.filter_eq_self.2 fun _ _ => rfl)

theorem eq_some_of_only {o : Object} (hobjects : cluster.inventory.objectsOf type = [o])
    (hinstalled : ∀ e, cluster.list type {} = .error e → e.isTypeNotInstalled = false) {found : Option Object}
    (h : cluster.only type = .ok found) : found = some o := by
  cases hlist : cluster.list type {} with
  | error e =>
    rw [only_of_error hlist (hinstalled e hlist)] at h
    cases h
  | ok os =>
    have hos := (eq_objectsOf_of_list hlist).trans hobjects
    rw [only_of_singleton (hos ▸ hlist)] at h
    exact (Except.ok.inj h).symm

end Cluster

namespace Program

variable {α : Type} (cluster : Cluster)

@[simp] theorem answer_ofExcept (r : Except Fault α) : (ofExcept r).answer cluster = r := by cases r <;> rfl

@[simp] theorem answer_readIn (context : String) (r : Except ReadFailure α) :
    (readIn context r).answer cluster = r.mapError (.read context) := by cases r <;> rfl

theorem answer_singleton (type : ResourceType) : (singleton type).answer cluster = cluster.only type :=
  answer_readIn _ _ _

theorem answer_listing (context : String) (type : ResourceType) (options : ListOptions) :
    (listing context type options).answer cluster =
      (orEmpty (cluster.list type options)).mapError (.read context) :=
  answer_readIn _ _ _

theorem answer_allSubscriptions :
    allSubscriptions.answer cluster = cluster.subscriptions.mapError (.read "listing subscriptions") :=
  answer_readIn _ _ _

end Program

theorem ManagementState.ofName?_eq_some_iff {name : String} {state : ManagementState} :
    ofName? name = some state ↔ name = state.name := by
  constructor
  · intro h
    exact (of_decide_eq_true (List.find?_some (p := fun s : ManagementState => decide (s.name = name)) h)).symm
  · rintro rfl
    cases state <;> decide

namespace ComponentCheck

variable {c : ComponentCheck} {cluster : Cluster} {o initialization : Object} {state : ManagementState}
  {ns : String}
  {e : Fault}

/-- A state is read where its name stands, and no state counts as removed. -/
theorem readState_eq_ok_iff {o : Object} {state : ManagementState} :
    c.readState o = .ok state ↔
      o.get? c.statePath = some (.str state.name) ∨ o.get? c.statePath = none ∧ state = .removed := by
  constructor
  · intro h
    unfold readState at h
    split at h
    · next hnone =>
      cases h
      exact .inr ⟨hnone, rfl⟩
    · next name hname =>
      split at h
      · next read hread =>
        cases h
        rw [ManagementState.ofName?_eq_some_iff.1 hread] at hname
        exact .inl hname
      · cases h
    · cases h
  · rintro (hname | ⟨hnone, rfl⟩)
    · simp only [readState, hname, ManagementState.ofName?_eq_some_iff.2 rfl]
    · simp only [readState, hnone]

def stateFinding (c : ComponentCheck) (u : Upgrade) (state : ManagementState) : Finding :=
  (c.about.stampedFinding u).annotate Annotation.managementState state.name

/-- How the evaluation of a component check can end on a cluster. -/
inductive Ends (c : ComponentCheck) (cluster : Cluster) (u : Upgrade) : Except Fault Finding → Prop
  | unread {e : Fault} (hread : cluster.only c.singleton = .error e) : Ends c cluster u (.error e)
  | absent (hread : cluster.only c.singleton = .ok none) :
    Ends c cluster u (.ok ((c.about.stampedFinding u).state (.resourceNotFound c.singleton)))
  | malformed {o : Object} {e : Fault} (hread : cluster.only c.singleton = .ok (some o))
    (hstate : c.readState o = .error e) : Ends c cluster u (.error e)
  | unconcerned {o : Object} {state : ManagementState} (hread : cluster.only c.singleton = .ok (some o))
    (hstate : c.readState o = .ok state) (habout : c.isAbout state = false) :
    Ends c cluster u (.ok ((c.stateFinding u state).state (noActionRequired c.component state)))
  | plain {o : Object} {state : ManagementState} (hread : cluster.only c.singleton = .ok (some o))
    (hstate : c.readState o = .ok state) (habout : c.isAbout state = true) (hneeds : c.needsNamespace = false) :
    Ends c cluster u ((c.policy ⟨c.component, o, state, none, u⟩ (c.stateFinding u state)).answer cluster)
  | namespaceUnread {o : Object} {state : ManagementState} {e : Fault}
    (hread : cluster.only c.singleton = .ok (some o)) (hstate : c.readState o = .ok state)
    (habout : c.isAbout state = true) (hneeds : c.needsNamespace = true)
    (hnamespace : cluster.only .initialization = .error e) : Ends c cluster u (.error e)
  | uninitialized {o : Object} {state : ManagementState} (hread : cluster.only c.singleton = .ok (some o))
    (hstate : c.readState o = .ok state) (habout : c.isAbout state = true) (hneeds : c.needsNamespace = true)
    (hnamespace : cluster.only .initialization = .ok none) :
    Ends c cluster u (.ok ((c.stateFinding u state).state (.resourceNotFound .initialization)))
  | unnamed {o initialization : Object} {state : ManagementState} (hread : cluster.only c.singleton = .ok (some o))
    (hstate : c.readState o = .ok state) (habout : c.isAbout state = true) (hneeds : c.needsNamespace = true)
    (hnamespace : cluster.only .initialization = .ok (some initialization))
    (hunset : applicationsNamespace? initialization = none) :
    Ends c cluster u (.ok ((c.stateFinding u state).state namespaceUnset))
  | named {o initialization : Object} {state : ManagementState} {ns : String}
    (hread : cluster.only c.singleton = .ok (some o)) (hstate : c.readState o = .ok state)
    (habout : c.isAbout state = true) (hneeds : c.needsNamespace = true)
    (hnamespace : cluster.only .initialization = .ok (some initialization))
    (hset : applicationsNamespace? initialization = some ns) :
    Ends c cluster u ((c.policy ⟨c.component, o, state, some ns, u⟩
      ((c.stateFinding u state).annotate Annotation.applicationsNamespace ns)).answer cluster)

theorem answer_evaluate (c : ComponentCheck) (cluster : Cluster) (u : Upgrade) :
    (c.evaluate u).answer cluster = (do
      match ← cluster.only c.singleton with
      | none => return (c.about.stampedFinding u).state (.resourceNotFound c.singleton)
      | some o => (c.inspect u o (c.about.stampedFinding u)).answer cluster) := by
  unfold evaluate
  rw [answer_bind, answer_singleton]
  congr 1
  funext found
  cases found <;> rfl

theorem answer_inspect (c : ComponentCheck) (cluster : Cluster) (u : Upgrade) (o : Object) :
    (c.inspect u o (c.about.stampedFinding u)).answer cluster = (do
      let state ← c.readState o
      if c.isAbout state then (c.conclude u o state (c.stateFinding u state)).answer cluster
      else return (c.stateFinding u state).state (noActionRequired c.component state)) := by
  unfold inspect
  rw [answer_bind, answer_ofExcept]
  congr 1
  funext state
  dsimp only
  split <;> rfl

theorem answer_conclude (c : ComponentCheck) (cluster : Cluster) (u : Upgrade) (o : Object)
    (state : ManagementState) (finding : Finding) (hneeds : c.needsNamespace = true) :
    (c.conclude u o state finding).answer cluster = (do
      match ← cluster.only .initialization with
      | none => return finding.state (.resourceNotFound .initialization)
      | some initialization => match applicationsNamespace? initialization with
        | none => return finding.state namespaceUnset
        | some ns => (c.policy ⟨c.component, o, state, some ns, u⟩
            (finding.annotate Annotation.applicationsNamespace ns)).answer cluster) := by
  unfold conclude
  rw [if_pos hneeds, answer_bind, answer_singleton]
  congr 1
  funext found
  cases found with
  | none => rfl
  | some initialization =>
    dsimp only
    cases applicationsNamespace? initialization <;> rfl

theorem answer_of_readState (hread : cluster.only c.singleton = .ok (some o)) (hstate : c.readState o = .ok state)
    (u : Upgrade) :
    (c.evaluate u).answer cluster =
      if c.isAbout state = true then (c.conclude u o state (c.stateFinding u state)).answer cluster
      else .ok ((c.stateFinding u state).state (noActionRequired c.component state)) := by
  rw [answer_evaluate, hread]
  change (c.inspect u o (c.about.stampedFinding u)).answer cluster = _
  rw [answer_inspect, hstate]
  rfl

theorem answer_of_unread (hread : cluster.only c.singleton = .error e) (u : Upgrade) :
    (c.evaluate u).answer cluster = .error e := by
  rw [answer_evaluate, hread]
  rfl

theorem answer_of_absent (hread : cluster.only c.singleton = .ok none) (u : Upgrade) :
    (c.evaluate u).answer cluster = .ok ((c.about.stampedFinding u).state (.resourceNotFound c.singleton)) := by
  rw [answer_evaluate, hread]
  rfl

theorem answer_of_malformed (hread : cluster.only c.singleton = .ok (some o)) (hstate : c.readState o = .error e)
    (u : Upgrade) : (c.evaluate u).answer cluster = .error e := by
  rw [answer_evaluate, hread]
  change (c.inspect u o (c.about.stampedFinding u)).answer cluster = _
  rw [answer_inspect, hstate]
  rfl

theorem answer_of_unconcerned (hread : cluster.only c.singleton = .ok (some o)) (hstate : c.readState o = .ok state)
    (habout : c.isAbout state = false) (u : Upgrade) :
    (c.evaluate u).answer cluster = .ok ((c.stateFinding u state).state (noActionRequired c.component state)) := by
  rw [answer_of_readState hread hstate, if_neg (Bool.eq_false_iff.1 habout)]

/-- A check that asks for no namespace leaves a state that it is about to its policy. -/
theorem answer_of_plain (hread : cluster.only c.singleton = .ok (some o)) (hstate : c.readState o = .ok state)
    (habout : c.isAbout state = true) (hneeds : c.needsNamespace = false) (u : Upgrade) :
    (c.evaluate u).answer cluster =
      (c.policy ⟨c.component, o, state, none, u⟩ (c.stateFinding u state)).answer cluster := by
  rw [answer_of_readState hread hstate, if_pos habout, conclude, if_neg (Bool.eq_false_iff.1 hneeds)]

section Namespaced

variable (hread : cluster.only c.singleton = .ok (some o)) (hstate : c.readState o = .ok state)
  (habout : c.isAbout state = true) (hneeds : c.needsNamespace = true)

include hread hstate habout hneeds

theorem answer_of_namespaceUnread (hnamespace : cluster.only .initialization = .error e) (u : Upgrade) :
    (c.evaluate u).answer cluster = .error e := by
  rw [answer_of_readState hread hstate, if_pos habout, answer_conclude _ _ _ _ _ _ hneeds, hnamespace]
  rfl

theorem answer_of_uninitialized (hnamespace : cluster.only .initialization = .ok none) (u : Upgrade) :
    (c.evaluate u).answer cluster = .ok ((c.stateFinding u state).state (.resourceNotFound .initialization)) := by
  rw [answer_of_readState hread hstate, if_pos habout, answer_conclude _ _ _ _ _ _ hneeds, hnamespace]
  rfl

theorem answer_of_unnamed (hnamespace : cluster.only .initialization = .ok (some initialization))
    (hunset : applicationsNamespace? initialization = none) (u : Upgrade) :
    (c.evaluate u).answer cluster = .ok ((c.stateFinding u state).state namespaceUnset) := by
  rw [answer_of_readState hread hstate, if_pos habout, answer_conclude _ _ _ _ _ _ hneeds, hnamespace]
  simp only [Bind.bind, Except.bind, hunset]
  rfl

theorem answer_of_named (hnamespace : cluster.only .initialization = .ok (some initialization))
    (hset : applicationsNamespace? initialization = some ns) (u : Upgrade) :
    (c.evaluate u).answer cluster = (c.policy ⟨c.component, o, state, some ns, u⟩
      ((c.stateFinding u state).annotate Annotation.applicationsNamespace ns)).answer cluster := by
  rw [answer_of_readState hread hstate, if_pos habout, answer_conclude _ _ _ _ _ _ hneeds, hnamespace]
  simp only [Bind.bind, Except.bind, hset]

end Namespaced

theorem ends (c : ComponentCheck) (cluster : Cluster) (u : Upgrade) :
    c.Ends cluster u ((c.evaluate u).answer cluster) := by
  cases hread : cluster.only c.singleton with
  | error e => exact answer_of_unread hread u ▸ .unread hread
  | ok found =>
    cases found with
    | none => exact answer_of_absent hread u ▸ .absent hread
    | some o =>
      cases hstate : c.readState o with
      | error e => exact answer_of_malformed hread hstate u ▸ .malformed hread hstate
      | ok state =>
        cases habout : c.isAbout state with
        | false => exact answer_of_unconcerned hread hstate habout u ▸ .unconcerned hread hstate habout
        | true =>
          cases hneeds : c.needsNamespace with
          | false => exact answer_of_plain hread hstate habout hneeds u ▸ .plain hread hstate habout hneeds
          | true =>
            cases hnamespace : cluster.only .initialization with
            | error e =>
              rw [answer_of_namespaceUnread hread hstate habout hneeds hnamespace]
              exact .namespaceUnread hread hstate habout hneeds hnamespace
            | ok found =>
              cases found with
              | none =>
                rw [answer_of_uninitialized hread hstate habout hneeds hnamespace]
                exact .uninitialized hread hstate habout hneeds hnamespace
              | some initialization =>
                cases hset : applicationsNamespace? initialization with
                | none =>
                  rw [answer_of_unnamed hread hstate habout hneeds hnamespace hset]
                  exact .unnamed hread hstate habout hneeds hnamespace hset
                | some ns =>
                  rw [answer_of_named hread hstate habout hneeds hnamespace hset]
                  exact .named hread hstate habout hneeds hnamespace hset

end ComponentCheck

namespace WorkloadCheck

variable {α : Type}

theorem keep_of_total {filter : α → Except Fault Bool} {p : α → Bool} (h : ∀ item, filter item = .ok (p item))
    (items : List α) : keep filter items = .ok (items.filter p) := by
  induction items with
  | nil => rfl
  | cons item items ih =>
    unfold keep
    rw [h, ih, List.filter_cons]
    cases p item <;> rfl

def countedFinding (c : WorkloadCheck α) (u : Upgrade) (items : List α) : Finding :=
  (c.about.stampedFinding u).annotate Annotation.workloadCount (toString items.length)

theorem answer_evaluate [Item α] (c : WorkloadCheck α) (cluster : Cluster) (u : Upgrade) :
    (c.evaluate u).answer cluster = (do
      let objects ← (orEmpty (cluster.list c.resource c.options)).mapError (.read ("listing " ++ c.resource.text))
      let items ← (keep c.filter (objects.map (Item.ofObject c.resource))).mapError (.filter c.resource.text)
      let finding ← (c.policy ⟨items, c.resource, u⟩ (c.countedFinding u items)).answer cluster
      return affect c.resource.typeMeta items finding) := by
  unfold evaluate
  rw [answer_bind, answer_listing]
  congr 1
  funext objects
  rw [answer_bind, answer_ofExcept]
  congr 1
  funext items
  rw [answer_bind]
  rfl

theorem answer_of_unread [Item α] {c : WorkloadCheck α} {cluster : Cluster} {e : ReadFailure}
    (h : orEmpty (cluster.list c.resource c.options) = .error e) (u : Upgrade) :
    (c.evaluate u).answer cluster = .error (.read ("listing " ++ c.resource.text) e) := by
  rw [answer_evaluate, h]
  rfl

theorem answer_of_items [Item α] {c : WorkloadCheck α} {cluster : Cluster} {os : List Object} {items : List α}
    (h : orEmpty (cluster.list c.resource c.options) = .ok os)
    (hitems : keep c.filter (os.map (Item.ofObject c.resource)) = .ok items) (u : Upgrade) :
    (c.evaluate u).answer cluster = (do
      let finding ← (c.policy ⟨items, c.resource, u⟩ (c.countedFinding u items)).answer cluster
      return affect c.resource.typeMeta items finding) := by
  rw [answer_evaluate, h]
  change ((keep c.filter (os.map (Item.ofObject c.resource))).mapError (Fault.filter c.resource.text) >>= _) = _
  rw [hitems]
  rfl

end WorkloadCheck

namespace OperatorCheck

theorem answer_evaluate (c : OperatorCheck) (cluster : Cluster) (u : Upgrade) :
    (c.evaluate u).answer cluster =
      if cluster.managerAvailable = true then do
        let subscriptions ← cluster.subscriptions.mapError (.read "listing subscriptions")
        c.conclude (subscriptions.find? c.isMatch) (c.about.stampedFinding u)
      else do
        let condition ← c.buildCondition false ""
        return (c.about.stampedFinding u).state { condition with message := Cluster.managerUnavailable } := by
  change (if cluster.managerAvailable = true then _ else _ : Program Finding).answer cluster = _
  cases cluster.managerAvailable with
  | true =>
    rw [if_pos rfl, if_pos rfl, answer_bind, answer_allSubscriptions]
    congr 1
    funext subscriptions
    exact answer_ofExcept _ _
  | false =>
    rw [if_neg Bool.false_ne_true, if_neg Bool.false_ne_true, answer_bind, answer_ofExcept]
    rfl

end OperatorCheck

end Preflight

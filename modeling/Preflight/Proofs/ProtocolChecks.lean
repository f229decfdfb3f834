import Preflight.Proofs.Answers
import Preflight.Proofs.Codecs
import Preflight.Proofs.Protocols
import Preflight.Standard.Catalog

/-! # Checks as the protocols are configured for them
A check of a catalog no longer shows which protocol carries it out. Here it is kept with the configuration of its
protocol, so that what it does to the cluster and to its finding can be told from that configuration and from what
its policy is known to do. -/
namespace Preflight

namespace Program

variable {α : Type}

/-- Whatever it reads, the program gives no result without the property. -/
def Ensures (P : α → Prop) : Program α → Prop
  | .done a => P a
  | .fail _ => True
  | .list _ _ next => ∀ listing, (next listing).Ensures P
  | .subscriptions next => ∀ listing, (next listing).Ensures P
  | .wait _ next | .cancel next => next.Ensures P
  | .managerAvailable next => ∀ available, (next available).Ensures P

theorem Ensures.of_answer {P : α → Prop} {p : Program α} (h : p.Ensures P) {cluster : Cluster} {a : α}
    (ha : p.answer cluster = .ok a) : P a := by
  induction p with
  | done b =>
    cases ha
    exact h
  | fail e => cases ha
  | list type options next ih => exact ih _ (h _) ha
  | subscriptions next ih => exact ih _ (h _) ha
  | wait milliseconds next ih => exact ih h ha
  | managerAvailable next ih => exact ih _ (h _) ha
  | cancel next ih => exact ih h ha

theorem Ensures.mono {P Q : α → Prop} {p : Program α} (h : p.Ensures P) (hPQ : ∀ a, P a → Q a) : p.Ensures Q := by
  induction p with
  | done a => exact hPQ a h
  | fail e => trivial
  | list type options next ih => exact fun listing => ih listing (h listing)
  | subscriptions next ih => exact fun listing => ih listing (h listing)
  | wait milliseconds next ih => exact ih h
  | managerAvailable next ih => exact fun available => ih available (h available)
  | cancel next ih => exact ih h

/-- However a run is cancelled, a result that it gives is the answer. -/
theorem answer_of_run {p : Program α} {cluster : Cluster} {position now : Nat} {stop : Option Stop} {a : α}
    (h : (p.run cluster position stop now).result = .ok a) : p.answer cluster = .ok a := by
  rcases p.run_result cluster position stop now with hanswer | hcancelled
  · exact hanswer.symm.trans h
  · cases hcancelled.symm.trans h

/-- Whatever it asks for, the program reads nothing. It may wait, fail and cancel the run. -/
def ReadsNothing : Program α → Prop
  | .done _ | .fail _ => True
  | .list .. | .subscriptions _ => False
  | .wait _ next | .cancel next => next.ReadsNothing
  | .managerAvailable next => ∀ available, (next available).ReadsNothing

end Program

namespace ComponentCheck

def stateOn? (c : ComponentCheck) (cluster : Cluster) : Option ManagementState :=
  match cluster.only c.singleton with
  | .ok (some o) => (c.readState o).toOption
  | _ => none

def needsNamespaceOn (c : ComponentCheck) (cluster : Cluster) : Bool :=
  c.needsNamespace && (c.stateOn? cluster).any c.isAbout

def namespaceOn? (c : ComponentCheck) (cluster : Cluster) : Option String :=
  if c.needsNamespaceOn cluster then
    match cluster.only .initialization with
    | .ok (some initialization) => applicationsNamespace? initialization
    | _ => none
  else none

def reachesPolicy (c : ComponentCheck) (cluster : Cluster) : Bool :=
  (c.stateOn? cluster).any c.isAbout && (!c.needsNamespace || (c.namespaceOn? cluster).isSome)

def learnedFinding (c : ComponentCheck) (cluster : Cluster) (u : Upgrade) : Finding :=
  let finding := match c.stateOn? cluster with
    | some state => c.stateFinding u state
    | none => c.about.stampedFinding u
  match c.namespaceOn? cluster with
  | some ns => finding.annotate Annotation.applicationsNamespace ns
  | none => finding

variable {c : ComponentCheck} {cluster : Cluster} {u : Upgrade} {f : Finding} {o : Object} {state : ManagementState}

private theorem stateOn?_of_readState (hread : cluster.only c.singleton = .ok (some o))
    (hstate : c.readState o = .ok state) : c.stateOn? cluster = some state := by
  simp only [stateOn?, hread, hstate, Except.toOption]

private theorem namespaceOn?_of_not_needed (h : c.needsNamespaceOn cluster = false) :
    c.namespaceOn? cluster = none :=
  if_neg (by rw [h]; exact Bool.false_ne_true)

private theorem learnedFinding_of_absent (hstate : c.stateOn? cluster = none) :
    c.learnedFinding cluster u = c.about.stampedFinding u := by
  have hnamespace : c.namespaceOn? cluster = none := namespaceOn?_of_not_needed (by simp [needsNamespaceOn, hstate])
  simp only [learnedFinding, hstate, hnamespace]

private theorem learnedFinding_of_unnamed (hstate : c.stateOn? cluster = some state)
    (hnamespace : c.namespaceOn? cluster = none) : c.learnedFinding cluster u = c.stateFinding u state := by
  simp only [learnedFinding, hstate, hnamespace]

private theorem learnedFinding_of_named {ns : String} (hstate : c.stateOn? cluster = some state)
    (hnamespace : c.namespaceOn? cluster = some ns) :
    c.learnedFinding cluster u = (c.stateFinding u state).annotate Annotation.applicationsNamespace ns := by
  simp only [learnedFinding, hstate, hnamespace]

/-- What holds before the cluster is read and is kept by all annotations but one holds of what is learned. -/
theorem holds_learnedFinding {P : Finding → Prop} (c : ComponentCheck) (hstart : P (c.about.stampedFinding u))
    (hannotate : ∀ f key value, key ≠ Annotation.targetVersion → P f → P (f.annotate key value))
    (cluster : Cluster) : P (c.learnedFinding cluster u) := by
  have hknown : ∀ state, P (c.stateFinding u state) := fun state => hannotate _ _ _ (by decide) hstart
  unfold learnedFinding
  cases c.stateOn? cluster with
  | none =>
    cases c.namespaceOn? cluster with
    | none => exact hstart
    | some ns => exact hannotate _ _ _ (by decide) hstart
  | some state =>
    cases c.namespaceOn? cluster with
    | none => exact hknown state
    | some ns => exact hannotate _ _ _ (by decide) (hknown state)

theorem conditions_learnedFinding (c : ComponentCheck) (cluster : Cluster) (u : Upgrade) :
    (c.learnedFinding cluster u).conditions = [] :=
  c.holds_learnedFinding (P := fun f => f.conditions = []) rfl (fun _ _ _ _ hf => hf) cluster

/-- A finding is what has been learned, either with the one condition with which the protocol ends the evaluation or
as the policy gives it back. -/
theorem exists_of_answer (hf : (c.evaluate u).answer cluster = .ok f) :
    (c.reachesPolicy cluster = false ∧ ∃ condition, f = (c.learnedFinding cluster u).state condition) ∨
      (c.reachesPolicy cluster = true ∧
        ∃ view, (c.policy view (c.learnedFinding cluster u)).answer cluster = .ok f) := by
  obtain ⟨r, hr⟩ : ∃ r : Except Fault Finding, r = .ok f := ⟨_, rfl⟩
  have hends : c.Ends cluster u r := (hf.trans hr.symm) ▸ c.ends cluster u
  cases hends with
  | unread hread => cases hr
  | absent hread =>
    cases hr
    have hstate : c.stateOn? cluster = none := by simp only [stateOn?, hread]
    exact .inl ⟨by simp [reachesPolicy, hstate], _, by rw [learnedFinding_of_absent hstate]⟩
  | malformed hread hreadState => cases hr
  | unconcerned hread hreadState habout =>
    cases hr
    have hstate := stateOn?_of_readState hread hreadState
    have hnamespace : c.namespaceOn? cluster = none :=
      namespaceOn?_of_not_needed (by simp [needsNamespaceOn, hstate, habout])
    exact .inl ⟨by simp [reachesPolicy, hstate, habout], _, by rw [learnedFinding_of_unnamed hstate hnamespace]⟩
  | plain hread hreadState habout hneeds =>
    have hstate := stateOn?_of_readState hread hreadState
    have hnamespace : c.namespaceOn? cluster = none :=
      namespaceOn?_of_not_needed (by simp [needsNamespaceOn, hneeds])
    rw [← learnedFinding_of_unnamed hstate hnamespace] at hr
    exact .inr ⟨by simp [reachesPolicy, hstate, habout, hneeds], _, hr⟩
  | namespaceUnread hread hreadState habout hneeds hnamespace => cases hr
  | uninitialized hread hreadState habout hneeds hinitialization =>
    cases hr
    have hstate := stateOn?_of_readState hread hreadState
    have hnamespace : c.namespaceOn? cluster = none := by simp [namespaceOn?, hinitialization]
    exact .inl ⟨by simp [reachesPolicy, hneeds, hnamespace], _, by rw [learnedFinding_of_unnamed hstate hnamespace]⟩
  | unnamed hread hreadState habout hneeds hinitialization hunset =>
    cases hr
    have hstate := stateOn?_of_readState hread hreadState
    have hnamespace : c.namespaceOn? cluster = none := by simp [namespaceOn?, hinitialization, hunset]
    exact .inl ⟨by simp [reachesPolicy, hneeds, hnamespace], _, by rw [learnedFinding_of_unnamed hstate hnamespace]⟩
  | @named o initialization state ns hread hreadState habout hneeds hinitialization hset =>
    have hstate := stateOn?_of_readState hread hreadState
    have hnamespace : c.namespaceOn? cluster = some ns := by
      simp [namespaceOn?, needsNamespaceOn, hstate, hneeds, habout, hinitialization, hset]
    rw [← learnedFinding_of_named hstate hnamespace] at hr
    exact .inr ⟨by simp [reachesPolicy, hstate, habout, hnamespace], _, hr⟩

/-- An evaluation with a finding has read the state in the singleton, if there is a singleton. -/
theorem isSome_stateOn?_iff (hf : (c.evaluate u).answer cluster = .ok f) :
    (c.stateOn? cluster).isSome = true ↔ ∃ o, cluster.only c.singleton = .ok (some o) := by
  constructor
  · intro hsome
    unfold stateOn? at hsome
    split at hsome
    · next o hread => exact ⟨o, hread⟩
    · cases hsome
  · rintro ⟨o, hread⟩
    cases hreadState : c.readState o with
    | error e => cases (answer_of_malformed hread hreadState u).symm.trans hf
    | ok state => rw [stateOn?_of_readState hread hreadState, Option.isSome_some]

end ComponentCheck

namespace WorkloadCheck

/-- What the check has listed, kept and been told by its policy, if it gives a finding. -/
theorem exists_of_answer {α : Type} [Item α] {c : WorkloadCheck α} {cluster : Cluster} {u : Upgrade} {f : Finding}
    (h : (c.evaluate u).answer cluster = .ok f) : ∃ os items finding,
      orEmpty (cluster.list c.resource c.options) = .ok os ∧
      keep c.filter (os.map (Item.ofObject c.resource)) = .ok items ∧
      (c.policy ⟨items, c.resource, u⟩ (c.countedFinding u items)).answer cluster = .ok finding ∧
      f = affect c.resource.typeMeta items finding := by
  rw [answer_evaluate] at h
  obtain ⟨os, hos, h⟩ := exists_of_bind_eq_ok h
  obtain ⟨items, hitems, h⟩ := exists_of_bind_eq_ok h
  obtain ⟨finding, hfinding, h⟩ := exists_of_bind_eq_ok h
  exact ⟨os, items, finding, eq_ok_of_mapError hos, eq_ok_of_mapError hitems, hfinding, (Except.ok.inj h).symm⟩

end WorkloadCheck

namespace OperatorCheck

def versionOn? (c : OperatorCheck) (cluster : Cluster) : Option String :=
  match cluster.subscriptions with
  | .ok subscriptions => ((subscriptions.find? c.isMatch).map Subscription.installedVersion).filter (· ≠ "")
  | .error _ => none

/-- The check states one condition, and the version if it is known. -/
theorem exists_of_answer {c : OperatorCheck} {cluster : Cluster} {u : Upgrade} {f : Finding}
    (h : (c.evaluate u).answer cluster = .ok f) : ∃ condition,
      f = match c.versionOn? cluster with
        | some version => ((c.about.stampedFinding u).state condition).annotate Annotation.installedVersion version
        | none => (c.about.stampedFinding u).state condition := by
  rw [answer_evaluate] at h
  unfold versionOn?
  cases hmanager : cluster.managerAvailable with
  | false =>
    rw [hmanager, if_neg Bool.false_ne_true] at h
    obtain ⟨condition, -, h⟩ := exists_of_bind_eq_ok h
    have hsubscriptions : cluster.subscriptions = .error (.transport Cluster.managerUnavailable) :=
      if_neg (by rw [hmanager]; exact Bool.false_ne_true)
    rw [hsubscriptions]
    exact ⟨_, (Except.ok.inj h).symm⟩
  | true =>
    rw [hmanager, if_pos rfl] at h
    obtain ⟨subscriptions, hsubscriptions, h⟩ := exists_of_bind_eq_ok h
    rw [eq_ok_of_mapError hsubscriptions]
    dsimp only
    generalize subscriptions.find? c.isMatch = match? at h ⊢
    obtain ⟨condition, -, h⟩ := exists_of_bind_eq_ok h
    refine ⟨condition, (Except.ok.inj h).symm.trans ?_⟩
    cases match? with
    | none => rfl
    | some s => by_cases hversion : s.installedVersion = "" <;> simp [hversion, Option.filter]

end OperatorCheck

inductive ProtocolCheck : Type 1 where
  | component (c : ComponentCheck)
  | workload {α : Type} [Item α] (c : WorkloadCheck α)
  | operator (c : OperatorCheck)

namespace ProtocolCheck

def toCheck : ProtocolCheck → Check
  | component c => c.toCheck
  | workload c => c.toCheck
  | operator c => c.toCheck

def about (p : ProtocolCheck) : CheckMeta := p.toCheck.about

def gate : ProtocolCheck → Gate
  | component c => c.gate
  | workload c => c.gate
  | operator c => c.gate

/-- Whatever finding the policy is handed, the way in which it goes on has the property. An operator check has no
policy. -/
def PolicyIs (P : Finding → Program Finding → Prop) : ProtocolCheck → Prop
  | component c => ∀ view finding, P finding (c.policy view finding)
  | workload c => ∀ view finding, P finding (c.policy view finding)
  | operator _ => True

variable {p : ProtocolCheck}

theorem applies_toCheck (p : ProtocolCheck) (u : Upgrade) : p.toCheck.applies u = .ok (p.gate u) := by
  cases p <;> rfl

theorem PolicyIs.mono {P Q : Finding → Program Finding → Prop} (h : p.PolicyIs P)
    (hPQ : ∀ finding program, P finding program → Q finding program) : p.PolicyIs Q := by
  cases p with
  | component c => exact fun view finding => hPQ _ _ (h view finding)
  | workload c => exact fun view finding => hPQ _ _ (h view finding)
  | operator c => trivial

/-- A property of findings that neither the steps of the protocols nor the policy take away is one of the result. -/
theorem holds_of_answer {P : Finding → Prop}
    (hpolicy : p.PolicyIs fun finding program => P finding → program.Ensures P)
    (hstate : ∀ f c, P f → P (f.state c))
    (hannotate : ∀ f key value, key ≠ Annotation.targetVersion → P f → P (f.annotate key value))
    (haffect : ∀ f type objects, P f → P (f.setAffected type objects))
    {cluster : Cluster} {u : Upgrade} {f : Finding} (hstart : P (p.about.stampedFinding u))
    (hf : (p.toCheck.evaluate u).answer cluster = .ok f) : P f := by
  cases p with
  | component c =>
    have hlearned : P (c.learnedFinding cluster u) := c.holds_learnedFinding hstart hannotate cluster
    rcases ComponentCheck.exists_of_answer hf with ⟨-, condition, rfl⟩ | ⟨-, view, hanswer⟩
    · exact hstate _ _ hlearned
    · exact (hpolicy _ _ hlearned).of_answer hanswer
  | workload c =>
    obtain ⟨os, items, finding, -, -, hanswer, rfl⟩ := WorkloadCheck.exists_of_answer hf
    have hfinding : P finding := (hpolicy _ _ (hannotate _ _ _ (by decide) hstart)).of_answer hanswer
    unfold WorkloadCheck.affect
    split
    · exact haffect _ _ _ hfinding
    · exact hfinding
  | operator c =>
    obtain ⟨condition, rfl⟩ := OperatorCheck.exists_of_answer hf
    split
    · exact hannotate _ _ _ (by decide) (hstate _ _ hstart)
    · exact hstate _ _ hstart

end ProtocolCheck

def Standard.protocols : List ProtocolCheck :=
  [.component servingModes, .component codeFlare, .workload modelMeshServices, .workload notebooks,
    .operator serviceMesh, .operator authorino]

theorem Standard.checks_eq_map_protocols : catalog.checks = protocols.map ProtocolCheck.toCheck := rfl

end Preflight

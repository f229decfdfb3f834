import Preflight.Proofs.Answers
import Preflight.Standard.Catalog

/-! # Absence
A read can fail because what it asks for is not there. Of the ways in which that happens the protocols take some for
an answer: a type that is not installed is one without objects. The others come out of an evaluation as a fault,
although they are absences no less: an object that is not found, in all three protocols, and everything that the
listing of subscriptions lacks. -/
namespace Preflight

open Program

namespace ReadFailure

def isAbsence (e : ReadFailure) : Bool := e.isNotFound || e.isTypeNotInstalled

variable {e : ReadFailure}

theorem isTypeNotInstalled_of_isNotFound (h : e.isNotFound = true) : e.isTypeNotInstalled = false := by
  cases e with
  | notFound resource name => rfl
  | _ => exact nomatch h

theorem isNotFound_of_isAbsence (h : e.isAbsence = true) (hinstalled : e.isTypeNotInstalled = false) :
    e.isNotFound = true := by
  rwa [isAbsence, hinstalled, Bool.or_false] at h

end ReadFailure

theorem orEmpty_eq_error_iff {r : Except ReadFailure (List Object)} {e : ReadFailure} :
    orEmpty r = .error e ↔ r = .error e ∧ e.isTypeNotInstalled = false := by
  cases r with
  | error e' =>
    cases he' : e'.isTypeNotInstalled with
    | true =>
      rw [orEmpty, if_pos he']
      constructor
      · intro h
        cases h
      · rintro ⟨h, he⟩
        cases h
        rw [he'] at he
        cases he
    | false =>
      rw [orEmpty, he', if_neg Bool.false_ne_true]
      constructor
      · intro h
        cases h
        exact ⟨rfl, he'⟩
      · exact And.left
  | ok os =>
    constructor
    · intro h
      cases h
    · rintro ⟨h, -⟩
      cases h

private theorem orEmpty_of_singletonOf {type : ResourceType} {r : Except ReadFailure (List Object)}
    {e : ReadFailure} (he : e.isAbsence = true) (h : singletonOf type r = .error e) : orEmpty r = .error e := by
  unfold singletonOf at h
  cases hr : orEmpty r with
  | error e' =>
    rw [hr] at h
    cases h
    rfl
  | ok os =>
    rw [hr] at h
    match os with
    | [] => cases h
    | [_] => cases h
    | _ :: _ :: _ =>
      cases h
      exact nomatch he

theorem Cluster.eq_of_only {cluster : Cluster} {type : ResourceType} {context : String} {e : ReadFailure}
    (he : e.isAbsence = true) (h : cluster.only type = .error (.read context e)) :
    context = "fetching " ++ type.kind ∧ cluster.list type {} = .error e ∧ e.isNotFound = true := by
  unfold only at h
  cases hread : singletonOf type (cluster.list type {}) with
  | ok found =>
    rw [hread] at h
    cases h
  | error e' =>
    rw [hread] at h
    cases h
    obtain ⟨hlist, hinstalled⟩ := orEmpty_eq_error_iff.1 (orEmpty_of_singletonOf he hread)
    exact ⟨rfl, hlist, ReadFailure.isNotFound_of_isAbsence he hinstalled⟩

theorem Cluster.only_of_notFound {cluster : Cluster} {type : ResourceType} {e : ReadFailure}
    (h : cluster.list type {} = .error e) (he : e.isNotFound = true) :
    cluster.only type = .error (.read ("fetching " ++ type.kind) e) :=
  only_of_error h (ReadFailure.isTypeNotInstalled_of_isNotFound he)

namespace Program

variable {α : Type}

/-- The program neither reads nor fails. It may wait, and it may cancel the run. -/
def Quiet : Program α → Prop
  | .done _ => True
  | .fail _ | .list .. | .subscriptions _ => False
  | .wait _ next | .cancel next => next.Quiet
  | .managerAvailable next => ∀ available, (next available).Quiet

theorem Quiet.answer_eq_ok {p : Program α} (h : p.Quiet) (cluster : Cluster) : ∃ a, p.answer cluster = .ok a := by
  induction p with
  | done a => exact ⟨a, rfl⟩
  | fail e => exact h.elim
  | list type options next ih => exact h.elim
  | subscriptions next ih => exact h.elim
  | wait milliseconds next ih => exact ih h
  | managerAvailable next ih => exact ih _ (h _)
  | cancel next ih => exact ih h

end Program

namespace Check

/-- The check is carried out by one of the protocols, with a policy that neither reads nor fails. Filters and
conditions cannot read, and when they fail the fault says whose it is. -/
inductive Undemanding : Check → Prop
  | component (c : ComponentCheck) (policy : ∀ view finding, (c.policy view finding).Quiet) : Undemanding c.toCheck
  | workload {α : Type} [Item α] (c : WorkloadCheck α) (policy : ∀ view finding, (c.policy view finding).Quiet) :
    Undemanding c.toCheck
  | operator (c : OperatorCheck) : Undemanding c.toCheck

/-- No run ends with the fault that a read failed for want of what it asked for. -/
def AbsorbsAbsence (c : Check) : Prop :=
  ∀ (cluster : Cluster) (u : Upgrade) (position : Nat) (stop : Option Stop) (now : Nat) (context : String)
    (e : ReadFailure), e.isAbsence = true →
    ((c.evaluate u).run cluster position stop now).result ≠ .error (.read context e)

end Check

structure ComponentCheck.AsksForNamespace (c : ComponentCheck) (cluster : Cluster) (o : Object)
    (state : ManagementState) : Prop where
  found : cluster.only c.singleton = .ok (some o)
  stated : c.readState o = .ok state
  concerned : c.isAbout state = true
  needed : c.needsNamespace = true

/-- Where a check takes an absence for a fault: at each of the four reads of the protocols. -/
inductive Check.TakesForFault (cluster : Cluster) : Check → String → ReadFailure → Prop
  | singleton (c : ComponentCheck) {e : ReadFailure} (hlist : cluster.list c.singleton {} = .error e)
    (he : e.isNotFound = true) : TakesForFault cluster c.toCheck ("fetching " ++ c.singleton.kind) e
  | initialization (c : ComponentCheck) {o : Object} {state : ManagementState} {e : ReadFailure}
    (hasks : c.AsksForNamespace cluster o state) (hlist : cluster.list .initialization {} = .error e)
    (he : e.isNotFound = true) :
    TakesForFault cluster c.toCheck ("fetching " ++ ResourceType.initialization.kind) e
  | listing {α : Type} [Item α] (c : WorkloadCheck α) {e : ReadFailure}
    (hlist : cluster.list c.resource c.options = .error e) (he : e.isNotFound = true) :
    TakesForFault cluster c.toCheck ("listing " ++ c.resource.text) e
  | subscriptions (c : OperatorCheck) {e : ReadFailure} (havailable : cluster.managerAvailable = true)
    (hfailure : cluster.subscriptionFailure = some e) (he : e.isAbsence = true) :
    TakesForFault cluster c.toCheck "listing subscriptions" e

/-- Where a check takes an absence for an answer, and what it has left to do then. -/
inductive Check.TakesForAnswer (cluster : Cluster) (u : Upgrade) : Check → Program Finding → Prop
  | singleton (c : ComponentCheck) {e : ReadFailure} (hlist : cluster.list c.singleton {} = .error e)
    (he : e.isTypeNotInstalled = true) :
    TakesForAnswer cluster u c.toCheck (.done ((c.about.stampedFinding u).state (.resourceNotFound c.singleton)))
  | initialization (c : ComponentCheck) {o : Object} {state : ManagementState} {e : ReadFailure}
    (hasks : c.AsksForNamespace cluster o state) (hlist : cluster.list .initialization {} = .error e)
    (he : e.isTypeNotInstalled = true) :
    TakesForAnswer cluster u c.toCheck (.done ((c.stateFinding u state).state (.resourceNotFound .initialization)))
  | listing {α : Type} [Item α] (c : WorkloadCheck α) {e : ReadFailure}
    (hlist : cluster.list c.resource c.options = .error e) (he : e.isTypeNotInstalled = true) :
    TakesForAnswer cluster u c.toCheck (c.policy ⟨[], c.resource, u⟩ (c.countedFinding u []))

variable {cluster : Cluster} {u : Upgrade} {context : String} {e : ReadFailure}

private theorem ComponentCheck.readState_ne_read (c : ComponentCheck) (o : Object) :
    c.readState o ≠ .error (.read context e) := by
  unfold readState
  split
  · exact nofun
  · split <;> exact nofun
  · exact nofun

theorem ComponentCheck.takesForFault_of_answer {c : ComponentCheck}
    (hpolicy : ∀ view finding, (c.policy view finding).Quiet) (he : e.isAbsence = true)
    (h : (c.evaluate u).answer cluster = .error (.read context e)) : c.toCheck.TakesForFault cluster context e := by
  have hquiet (view : ComponentView) (finding : Finding) :
      (c.policy view finding).answer cluster ≠ .error (.read context e) := by
    obtain ⟨f, hf⟩ := (hpolicy view finding).answer_eq_ok cluster
    rw [hf]
    exact nofun
  have hends := c.ends cluster u
  rw [h] at hends
  generalize hr : (Except.error (.read context e) : Except Fault Finding) = r at hends
  cases hends with
  | unread hread =>
    cases hr
    obtain ⟨rfl, hlist, hnotFound⟩ := Cluster.eq_of_only he hread
    exact .singleton c hlist hnotFound
  | absent hread => cases hr
  | malformed hread hstate =>
    cases hr
    exact absurd hstate (c.readState_ne_read _)
  | unconcerned hread hstate habout => cases hr
  | plain hread hstate habout hneeds => exact absurd hr.symm (hquiet _ _)
  | namespaceUnread hread hstate habout hneeds hnamespace =>
    cases hr
    obtain ⟨rfl, hlist, hnotFound⟩ := Cluster.eq_of_only he hnamespace
    exact .initialization c ⟨hread, hstate, habout, hneeds⟩ hlist hnotFound
  | uninitialized hread hstate habout hneeds hnamespace => cases hr
  | unnamed hread hstate habout hneeds hnamespace hunset => cases hr
  | named hread hstate habout hneeds hnamespace hset => exact absurd hr.symm (hquiet _ _)

theorem WorkloadCheck.takesForFault_of_answer {α : Type} [Item α] {c : WorkloadCheck α}
    (hpolicy : ∀ view finding, (c.policy view finding).Quiet) (he : e.isAbsence = true)
    (h : (c.evaluate u).answer cluster = .error (.read context e)) : c.toCheck.TakesForFault cluster context e := by
  cases hobjects : orEmpty (cluster.list c.resource c.options) with
  | error e' =>
    rw [answer_of_unread hobjects] at h
    cases h
    obtain ⟨hlist, hinstalled⟩ := orEmpty_eq_error_iff.1 hobjects
    exact .listing c hlist (ReadFailure.isNotFound_of_isAbsence he hinstalled)
  | ok os =>
    cases hitems : keep c.filter (os.map (Item.ofObject c.resource)) with
    | error fault =>
      rw [answer_evaluate, hobjects] at h
      change ((keep c.filter (os.map (Item.ofObject c.resource))).mapError
        (Fault.filter c.resource.text) >>= _) = _ at h
      rw [hitems] at h
      cases h
    | ok items =>
      obtain ⟨f, hf⟩ := (hpolicy ⟨items, c.resource, u⟩ (c.countedFinding u items)).answer_eq_ok cluster
      rw [answer_of_items hobjects hitems, hf] at h
      cases h

theorem OperatorCheck.buildCondition_bind_ne_read (c : OperatorCheck) (found : Bool) (version : String)
    (finish : Condition → Finding) :
    (c.buildCondition found version >>= fun condition => .ok (finish condition)) ≠ .error (.read context e) := by
  unfold buildCondition
  cases c.condition found version with
  | ok condition => exact nofun
  | error fault => exact nofun

theorem OperatorCheck.takesForFault_of_answer {c : OperatorCheck} (he : e.isAbsence = true)
    (h : (c.evaluate u).answer cluster = .error (.read context e)) : c.toCheck.TakesForFault cluster context e := by
  rw [answer_evaluate] at h
  cases havailable : cluster.managerAvailable with
  | false =>
    rw [havailable, if_neg Bool.false_ne_true] at h
    exact absurd h (c.buildCondition_bind_ne_read false "" _)
  | true =>
    rw [if_pos havailable, Cluster.subscriptions, if_pos havailable] at h
    cases hfailure : cluster.subscriptionFailure with
    | some e' =>
      rw [hfailure] at h
      cases h
      exact .subscriptions c havailable hfailure he
    | none =>
      rw [hfailure] at h
      exact absurd h (c.buildCondition_bind_ne_read _ _ _)

theorem Check.Undemanding.takesForFault_of_answer {c : Check} (hc : c.Undemanding) (he : e.isAbsence = true)
    (h : (c.evaluate u).answer cluster = .error (.read context e)) : c.TakesForFault cluster context e := by
  cases hc with
  | component c policy => exact c.takesForFault_of_answer policy he h
  | workload c policy => exact c.takesForFault_of_answer policy he h
  | operator c => exact c.takesForFault_of_answer he h

namespace ComponentCheck

variable {c : ComponentCheck}

theorem run_of_unread {e : Fault} (h : cluster.only c.singleton = .error e) (u : Upgrade) (position now : Nat) :
    ((c.evaluate u).run cluster position none now).result = .error e := by
  unfold evaluate
  rw [run_none_bind (neverCancels_singleton _), answer_singleton, h]
  rfl

private theorem run_of_absent (h : cluster.only c.singleton = .ok none) (u : Upgrade) (position now : Nat) :
    ((c.evaluate u).run cluster position none now).result =
      .ok ((c.about.stampedFinding u).state (.resourceNotFound c.singleton)) := by
  unfold evaluate
  rw [run_none_bind (neverCancels_singleton _), answer_singleton, h]
  rfl

variable {o : Object} {state : ManagementState}

theorem run_eq_conclude (h : c.AsksForNamespace cluster o state) (u : Upgrade) (position now : Nat) :
    ∃ later, ((c.evaluate u).run cluster position none now).result =
      ((c.conclude u o state (c.stateFinding u state)).run cluster position none later).result := by
  refine ⟨now + (Program.singleton c.singleton).duration cluster, ?_⟩
  unfold evaluate
  rw [run_none_bind (neverCancels_singleton _), answer_singleton, h.found]
  change ((c.inspect u o (c.about.stampedFinding u)).run cluster position none _).result = _
  unfold inspect
  rw [run_none_bind (neverCancels_ofExcept _), answer_ofExcept, h.stated]
  change ((if c.isAbout state = true then c.conclude u o state _ else _ : Program Finding).run
    cluster position none _).result = _
  rw [if_pos h.concerned]
  rfl

private theorem run_of_initialization_unread (h : c.AsksForNamespace cluster o state) {e : Fault}
    (hread : cluster.only .initialization = .error e) (u : Upgrade) (position now : Nat) :
    ((c.evaluate u).run cluster position none now).result = .error e := by
  obtain ⟨later, hlater⟩ := run_eq_conclude h u position now
  rw [hlater, conclude, if_pos h.needed, run_none_bind (neverCancels_singleton _), answer_singleton, hread]
  rfl

private theorem run_of_uninitialized (h : c.AsksForNamespace cluster o state)
    (hread : cluster.only .initialization = .ok none) (u : Upgrade) (position now : Nat) :
    ((c.evaluate u).run cluster position none now).result =
      .ok ((c.stateFinding u state).state (.resourceNotFound .initialization)) := by
  obtain ⟨later, hlater⟩ := run_eq_conclude h u position now
  rw [hlater, conclude, if_pos h.needed, run_none_bind (neverCancels_singleton _), answer_singleton, hread]
  rfl

end ComponentCheck

namespace WorkloadCheck

variable {α : Type} [Item α] {c : WorkloadCheck α}

theorem run_of_unread (h : orEmpty (cluster.list c.resource c.options) = .error e) (u : Upgrade)
    (position now : Nat) :
    ((c.evaluate u).run cluster position none now).result = .error (.read ("listing " ++ c.resource.text) e) := by
  unfold evaluate
  rw [run_none_bind (neverCancels_listing _ _ _), answer_listing, h]
  rfl

theorem run_of_empty (h : orEmpty (cluster.list c.resource c.options) = .ok []) (u : Upgrade) (position now : Nat) :
    ∃ later, ((c.evaluate u).run cluster position none now).result =
      ((c.policy ⟨[], c.resource, u⟩ (c.countedFinding u [])).run cluster position none later).result := by
  refine ⟨now + (listing ("listing " ++ c.resource.text) c.resource c.options).duration cluster, ?_⟩
  unfold evaluate
  rw [run_none_bind (neverCancels_listing _ _ _), answer_listing, h]
  change (((c.policy ⟨[], c.resource, u⟩ (c.countedFinding u [])).bind fun finding =>
    .done (affect c.resource.typeMeta [] finding)).run cluster position none _).result = _
  have haffect (finding : Finding) : affect c.resource.typeMeta ([] : List α) finding = finding :=
    if_neg fun h => h.2 rfl
  simp only [haffect, bind_done]

end WorkloadCheck

theorem OperatorCheck.run_of_unread (c : OperatorCheck) (havailable : cluster.managerAvailable = true)
    (hfailure : cluster.subscriptionFailure = some e) (u : Upgrade) (position now : Nat) :
    ((c.evaluate u).run cluster position none now).result = .error (.read "listing subscriptions" e) := by
  have hread : cluster.subscriptions = .error e := by rw [Cluster.subscriptions, if_pos havailable, hfailure]
  unfold evaluate
  rw [run_none_bind (p := isManagerAvailable) (fun _ => trivial)]
  change ((if cluster.managerAvailable = true then _ else _ : Program Finding).run
    cluster position none _).result = _
  rw [if_pos havailable, run_none_bind neverCancels_allSubscriptions, answer_allSubscriptions, hread]
  rfl

theorem Check.TakesForFault.run_result {c : Check} (h : c.TakesForFault cluster context e) (u : Upgrade)
    (position now : Nat) : ((c.evaluate u).run cluster position none now).result = .error (.read context e) := by
  cases h with
  | singleton c hlist he => exact c.run_of_unread (Cluster.only_of_notFound hlist he) u position now
  | initialization c hasks hlist he =>
    exact c.run_of_initialization_unread hasks (Cluster.only_of_notFound hlist he) u position now
  | listing c hlist he =>
    exact c.run_of_unread
      (orEmpty_eq_error_iff.2 ⟨hlist, ReadFailure.isTypeNotInstalled_of_isNotFound he⟩) u position now
  | subscriptions c havailable hfailure he => exact c.run_of_unread havailable hfailure u position now

theorem Check.TakesForAnswer.run_result {c : Check} {rest : Program Finding} (h : c.TakesForAnswer cluster u rest)
    (position now : Nat) : ∃ later,
      ((c.evaluate u).run cluster position none now).result = (rest.run cluster position none later).result := by
  cases h with
  | singleton c hlist he => exact ⟨now, c.run_of_absent (Cluster.only_of_uninstalled hlist he) u position now⟩
  | initialization c hasks hlist he =>
    exact ⟨now, c.run_of_uninitialized hasks (Cluster.only_of_uninstalled hlist he) u position now⟩
  | listing c hlist he => exact c.run_of_empty (orEmpty_eq_ok_iff.2 (.inr ⟨rfl, _, hlist, he⟩)) u position now

/-- A run of a check ends with a read that failed for want of what it asked for only where the check takes that for
a fault, and there every run that nothing cancels ends so. Where the check takes an absence for an answer, a run
that nothing cancels is what is left to do with that answer. -/
theorem Check.Undemanding.run_on_absence {c : Check} (hc : c.Undemanding) (cluster : Cluster) (u : Upgrade)
    (position now : Nat) :
    (∀ (context : String) (e : ReadFailure), e.isAbsence = true →
      (∀ stop, ((c.evaluate u).run cluster position stop now).result = .error (.read context e) →
        c.TakesForFault cluster context e) ∧
      (c.TakesForFault cluster context e →
        ((c.evaluate u).run cluster position none now).result = .error (.read context e))) ∧
    ∀ rest, c.TakesForAnswer cluster u rest → ∃ later,
      ((c.evaluate u).run cluster position none now).result = (rest.run cluster position none later).result := by
  refine ⟨fun context e he => ⟨fun stop h => ?_, fun h => h.run_result u position now⟩,
    fun rest h => h.run_result position now⟩
  rcases Program.run_result (c.evaluate u) cluster position stop now with hanswer | hcancelled
  · exact hc.takesForFault_of_answer he (hanswer.symm.trans h)
  · cases hcancelled.symm.trans h

namespace Standard

def singletonNotFound : Cluster :=
  { inventory := { failures := [(.dataScienceCluster, .notFound "datascienceclusters" "default-dsc")] } }

def codeFlareInNamespace : ComponentCheck := { codeFlare with needsNamespace := true }

def initializationNotFound : Cluster where
  inventory :=
    { objects := [(.dataScienceCluster, ⟨.obj [("spec", .obj [("components", .obj [("codeflare",
        .obj [("managementState", .str "Managed")])])])]⟩)]
      installed := [.dataScienceCluster]
      failures := [(.initialization, .notFound "dscinitializations" "default-dsci")] }

def notebooksNotFound : Cluster := { inventory := { failures := [(.notebook, .notFound "notebooks" "study")] } }

def subscriptionsNotInstalled : Cluster :=
  { subscriptionFailure := some (.typeNotInstalled "subscriptions.operators.coreos.com") }

theorem codeFlare_undemanding : codeFlare.toCheck.Undemanding := .component _ fun _ _ => trivial

/-- Not found and not installed, the same singleton makes a fault and a condition. -/
theorem singleton_not_found_or_not_installed :
    codeFlare.toCheck.Undemanding ∧
      ((codeFlare.toCheck.evaluate {}).run singletonNotFound 0 none 0).result =
        .error (.read "fetching DataScienceCluster" (.notFound "datascienceclusters" "default-dsc")) ∧
      ((codeFlare.toCheck.evaluate {}).run {} 0 none 0).result =
        .ok ((codeFlare.about.stampedFinding {}).state (.resourceNotFound .dataScienceCluster)) := by
  obtain ⟨hfault, -⟩ := codeFlare_undemanding.run_on_absence singletonNotFound {} 0 0
  obtain ⟨-, hanswer⟩ := codeFlare_undemanding.run_on_absence {} {} 0 0
  obtain ⟨later, hlater⟩ := hanswer _ (.singleton codeFlare rfl rfl)
  exact ⟨codeFlare_undemanding, (hfault _ _ rfl).2 (.singleton codeFlare rfl rfl), hlater⟩

/-- At each of the four reads an absence comes out of a check that has no reads and no faults of its own. -/
theorem not_absorbsAbsence :
    (codeFlare.toCheck.Undemanding ∧ ¬ codeFlare.toCheck.AbsorbsAbsence) ∧
      (codeFlareInNamespace.toCheck.Undemanding ∧
        ((codeFlareInNamespace.toCheck.evaluate {}).run initializationNotFound 0 none 0).result =
          .error (.read "fetching DSCInitialization" (.notFound "dscinitializations" "default-dsci"))) ∧
      (notebooks.toCheck.Undemanding ∧ ¬ notebooks.toCheck.AbsorbsAbsence) ∧
      (authorino.toCheck.Undemanding ∧ ¬ authorino.toCheck.AbsorbsAbsence) := by
  refine ⟨⟨codeFlare_undemanding, fun h => ?_⟩, ⟨.component _ fun _ _ => trivial, rfl⟩,
    ⟨.workload _ fun _ _ => trivial, fun h => ?_⟩, ⟨.operator _, fun h => ?_⟩⟩
  · exact h singletonNotFound {} 0 none 0 _ _ rfl rfl
  · exact h notebooksNotFound {} 0 none 0 _ _ rfl rfl
  · exact h subscriptionsNotInstalled {} 0 none 0 _ _ rfl rfl

end Standard

end Preflight

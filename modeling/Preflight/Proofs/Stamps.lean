import Preflight.Proofs.ProtocolChecks
import Preflight.Proofs.ServingModes

/-! # What findings bear
A finding of a protocol has the description of its check and annotations under keys that are reserved for the
protocols. Whichever way an evaluation takes to its finding, which of those annotations the finding has, and with
what values, can be told from the check and the cluster. Policies add to a finding what they like under other
keys. -/
namespace Preflight

def Annotation.reserved : List String :=
  [managementState, applicationsNamespace, targetVersion, workloadCount, installedVersion]

@[simp] theorem CheckMeta.annotationOf_stampedFinding (m : CheckMeta) (u : Upgrade) (key : String) :
    (m.stampedFinding u).annotationOf key = if key = Annotation.targetVersion then some u.targetLabel else none :=
  Finding.annotationOf_annotate _ _ _ _

namespace Finding

variable {f g k : Finding} {m : CheckMeta} {u : Upgrade}

/-- The second finding has the description of the first one and its annotations under the reserved keys. -/
structure SameStamps (f g : Finding) : Prop where
  group : g.group = f.group
  kind : g.kind = f.kind
  name : g.name = f.name
  description : g.description = f.description
  remediation : g.remediation = f.remediation
  annotations : ∀ key ∈ Annotation.reserved, g.annotationOf key = f.annotationOf key

namespace SameStamps

theorem refl (f : Finding) : f.SameStamps f := ⟨rfl, rfl, rfl, rfl, rfl, fun _ _ => rfl⟩

theorem trans (h : f.SameStamps g) (h' : g.SameStamps k) : f.SameStamps k where
  group := h'.group.trans h.group
  kind := h'.kind.trans h.kind
  name := h'.name.trans h.name
  description := h'.description.trans h.description
  remediation := h'.remediation.trans h.remediation
  annotations key hkey := (h'.annotations key hkey).trans (h.annotations key hkey)

theorem state (f : Finding) (c : Condition) : f.SameStamps (f.state c) := ⟨rfl, rfl, rfl, rfl, rfl, fun _ _ => rfl⟩

theorem setAffected (f : Finding) (type : TypeMeta) (objects : List ObjectRef) :
    f.SameStamps (f.setAffected type objects) := ⟨rfl, rfl, rfl, rfl, rfl, fun _ _ => rfl⟩

theorem annotate (f : Finding) {key : String} (hkey : key ∉ Annotation.reserved) (value : String) :
    f.SameStamps (f.annotate key value) := by
  refine ⟨rfl, rfl, rfl, rfl, rfl, fun key' hkey' => ?_⟩
  have hne : key' ≠ key := fun heq => hkey (heq ▸ hkey')
  rw [annotationOf_annotate, if_neg hne]

theorem affect {α : Type} [Item α] (type : TypeMeta) (items : List α) (f : Finding) :
    f.SameStamps (WorkloadCheck.affect type items f) := by
  unfold WorkloadCheck.affect
  split
  · exact setAffected _ _ _
  · exact refl f

end SameStamps

structure IsOf (f : Finding) (m : CheckMeta) (u : Upgrade) : Prop where
  group : f.group = m.group
  kind : f.kind = m.kind
  name : f.name = m.checkType
  description : f.description = m.description
  remediation : f.remediation = m.remediation
  targetVersion : f.annotationOf Annotation.targetVersion = some u.targetLabel

theorem isOf_stampedFinding (m : CheckMeta) (u : Upgrade) : (m.stampedFinding u).IsOf m u :=
  ⟨rfl, rfl, rfl, rfl, rfl, (m.annotationOf_stampedFinding u _).trans (if_pos rfl)⟩

theorem IsOf.annotate (h : f.IsOf m u) {key : String} (hkey : Annotation.targetVersion ≠ key) (value : String) :
    (f.annotate key value).IsOf m u :=
  { h with targetVersion := (annotationOf_annotate _ _ _ _).trans ((if_neg hkey).trans h.targetVersion) }

theorem IsOf.of_sameStamps (h : f.IsOf m u) (hsame : f.SameStamps g) : g.IsOf m u where
  group := hsame.group.trans h.group
  kind := hsame.kind.trans h.kind
  name := hsame.name.trans h.name
  description := hsame.description.trans h.description
  remediation := hsame.remediation.trans h.remediation
  targetVersion := (hsame.annotations _ (by decide)).trans h.targetVersion

end Finding

namespace ComponentCheck

variable {c : ComponentCheck} {cluster : Cluster} {u : Upgrade} {f : Finding}

/-- What a finding of the protocol bears. -/
structure Stamps (c : ComponentCheck) (cluster : Cluster) (f : Finding) : Prop where
  /-- The state in the singleton, if there is a singleton. -/
  state : f.annotationOf Annotation.managementState = (c.stateOn? cluster).map ManagementState.name
  found : (c.stateOn? cluster).isSome = true ↔ ∃ o, cluster.only c.singleton = .ok (some o)
  /-- The namespace of the applications, if it is asked for and there is one. -/
  namespaceName : f.annotationOf Annotation.applicationsNamespace = c.namespaceOn? cluster
  named : f.annotationOf Annotation.applicationsNamespace ≠ some ""
  count : f.annotationOf Annotation.workloadCount = none
  version : f.annotationOf Annotation.installedVersion = none
  /-- Short of the policy there is one condition. -/
  conditions : c.reachesPolicy cluster = false → f.conditions.length = 1

private theorem namespaceOn?_ne_empty (c : ComponentCheck) (cluster : Cluster) :
    c.namespaceOn? cluster ≠ some "" := by
  unfold namespaceOn? applicationsNamespace?
  grind

private theorem isOf_learnedFinding (c : ComponentCheck) (cluster : Cluster) (u : Upgrade) :
    (c.learnedFinding cluster u).IsOf c.about u :=
  c.holds_learnedFinding (P := fun f => f.IsOf c.about u) (Finding.isOf_stampedFinding c.about u)
    (fun _ _ value hkey hof => hof.annotate hkey.symm value) cluster

private theorem annotationOf_learnedFinding (c : ComponentCheck) (cluster : Cluster) (u : Upgrade) (key : String) :
    (c.learnedFinding cluster u).annotationOf key =
      if key = Annotation.applicationsNamespace then c.namespaceOn? cluster
      else if key = Annotation.managementState then (c.stateOn? cluster).map ManagementState.name
      else if key = Annotation.targetVersion then some u.targetLabel
      else none := by
  have hstate : Annotation.applicationsNamespace ≠ Annotation.managementState := by decide
  have htarget : Annotation.applicationsNamespace ≠ Annotation.targetVersion := by decide
  have htarget' : Annotation.managementState ≠ Annotation.targetVersion := by decide
  unfold learnedFinding
  cases c.stateOn? cluster <;> cases c.namespaceOn? cluster <;> simp [stateFinding] <;> grind

theorem stamps_of_answer (hpolicy : ∀ view finding, (c.policy view finding).Ensures finding.SameStamps)
    (hf : (c.evaluate u).answer cluster = .ok f) : f.IsOf c.about u ∧ c.Stamps cluster f := by
  obtain ⟨hsame, hconditions⟩ : (c.learnedFinding cluster u).SameStamps f ∧
      (c.reachesPolicy cluster = false → f.conditions.length = 1) := by
    rcases exists_of_answer hf with ⟨-, condition, rfl⟩ | ⟨hreaches, view, hanswer⟩
    · refine ⟨.state _ _, fun _ => ?_⟩
      rw [Finding.conditions_state, conditions_learnedFinding]
      rfl
    · refine ⟨(hpolicy _ _).of_answer hanswer, fun hshort => ?_⟩
      cases hreaches.symm.trans hshort
  have hannotation : ∀ key ∈ Annotation.reserved, f.annotationOf key = _ := fun key hkey =>
    (hsame.annotations key hkey).trans (c.annotationOf_learnedFinding cluster u key)
  have hnamespace : f.annotationOf Annotation.applicationsNamespace = c.namespaceOn? cluster :=
    hannotation _ (by decide)
  exact ⟨(c.isOf_learnedFinding cluster u).of_sameStamps hsame,
    { state := hannotation _ (by decide)
      found := isSome_stateOn?_iff hf
      namespaceName := hnamespace
      named := hnamespace ▸ c.namespaceOn?_ne_empty cluster
      count := hannotation _ (by decide)
      version := hannotation _ (by decide)
      conditions := hconditions }⟩

end ComponentCheck

structure WorkloadCheck.Stamps {α : Type} [Item α] (c : WorkloadCheck α) (cluster : Cluster)
    (f : Finding) : Prop where
  /-- The number of the items that the filter accepts. -/
  count : ∃ os items, orEmpty (cluster.list c.resource c.options) = .ok os ∧
    keep c.filter (os.map (Item.ofObject c.resource)) = .ok items ∧
    f.annotationOf Annotation.workloadCount = some (toString items.length)
  state : f.annotationOf Annotation.managementState = none
  namespaceName : f.annotationOf Annotation.applicationsNamespace = none
  version : f.annotationOf Annotation.installedVersion = none

theorem WorkloadCheck.stamps_of_answer {α : Type} [Item α] {c : WorkloadCheck α} {cluster : Cluster} {u : Upgrade}
    {f : Finding} (hpolicy : ∀ view finding, (c.policy view finding).Ensures finding.SameStamps)
    (hf : (c.evaluate u).answer cluster = .ok f) : f.IsOf c.about u ∧ c.Stamps cluster f := by
  obtain ⟨os, items, finding, hos, hitems, hanswer, rfl⟩ := exists_of_answer hf
  have hsame : (c.countedFinding u items).SameStamps (affect c.resource.typeMeta items finding) :=
    ((hpolicy _ _).of_answer hanswer).trans (.affect _ _ _)
  have hcounted : (c.countedFinding u items).IsOf c.about u :=
    (Finding.isOf_stampedFinding _ _).annotate (by decide) _
  exact ⟨hcounted.of_sameStamps hsame,
    { count := ⟨os, items, hos, hitems, hsame.annotations _ (by decide)⟩
      state := hsame.annotations _ (by decide)
      namespaceName := hsame.annotations _ (by decide)
      version := hsame.annotations _ (by decide) }⟩

structure OperatorCheck.Stamps (c : OperatorCheck) (cluster : Cluster) (f : Finding) : Prop where
  /-- The version of the subscription that matches, if there is one and its version is known. -/
  version : f.annotationOf Annotation.installedVersion = c.versionOn? cluster
  state : f.annotationOf Annotation.managementState = none
  namespaceName : f.annotationOf Annotation.applicationsNamespace = none
  count : f.annotationOf Annotation.workloadCount = none
  conditions : f.conditions.length = 1

theorem OperatorCheck.stamps_of_answer {c : OperatorCheck} {cluster : Cluster} {u : Upgrade} {f : Finding}
    (hf : (c.evaluate u).answer cluster = .ok f) : f.IsOf c.about u ∧ c.Stamps cluster f := by
  obtain ⟨condition, rfl⟩ := exists_of_answer hf
  have hstated : ((c.about.stampedFinding u).state condition).IsOf c.about u :=
    (Finding.isOf_stampedFinding _ _).of_sameStamps (.state _ _)
  cases hversion : c.versionOn? cluster with
  | none => exact ⟨hstated, hversion.symm, rfl, rfl, rfl, rfl⟩
  | some version => exact ⟨hstated.annotate (by decide) version, hversion.symm, rfl, rfl, rfl, rfl⟩

namespace ProtocolCheck

/-- What a finding of the protocol bears that carries out the check. -/
def Stamps (cluster : Cluster) (f : Finding) : ProtocolCheck → Prop
  | component c => c.Stamps cluster f
  | workload c => c.Stamps cluster f
  | operator c => c.Stamps cluster f

/-- However its run is cancelled, a finding of a protocol is one of its check and bears what the protocol puts on
it, as long as the policy leaves that alone. -/
theorem stamps_of_result (p : ProtocolCheck)
    (hpolicy : p.PolicyIs fun finding program => program.Ensures finding.SameStamps) (cluster : Cluster)
    (u : Upgrade)
    (position : Nat) (stop : Option Stop) (now : Nat) (f : Finding)
    (h : ((p.toCheck.evaluate u).run cluster position stop now).result = .ok f) :
    f.IsOf p.about u ∧ p.Stamps cluster f := by
  have hanswer := Program.answer_of_run h
  cases p with
  | component c => exact ComponentCheck.stamps_of_answer hpolicy hanswer
  | workload c => exact WorkloadCheck.stamps_of_answer hpolicy hanswer
  | operator c => exact OperatorCheck.stamps_of_answer hanswer

/-- The check of the serving modes on a cluster with both modes, in a run that is cancelled afterwards. -/
theorem servingModes_stamps :
    (component Standard.servingModes).PolicyIs (fun finding program => program.Ensures finding.SameStamps) ∧
      ∃ f : Finding, ((Standard.servingModes.evaluate ServingModes.toVersion3).run
          (ServingModes.clusterWith ServingModes.bothModes [ServingModes.initialized])
          0 (some (.outside 5)) 0).result =
        .ok f ∧
        f.name = "serverless-removal" ∧ f.annotationOf Annotation.targetVersion = some "3.0.0" ∧
        f.annotationOf Annotation.managementState = some "Managed" ∧
        f.annotationOf Annotation.applicationsNamespace = some "opendatahub" ∧
        f.annotationOf Annotation.installedVersion = none := by
  have hpolicy :
      (component Standard.servingModes).PolicyIs fun finding program => program.Ensures finding.SameStamps := by
    intro view finding
    change (ServingModes.policy view finding).Ensures finding.SameStamps
    unfold ServingModes.policy
    split
    · trivial
    · exact (Finding.SameStamps.state _ _).trans (.state _ _)
  refine ⟨hpolicy, _, rfl, ?_⟩
  obtain ⟨hof, hstamps⟩ := stamps_of_result (component Standard.servingModes) hpolicy
    (ServingModes.clusterWith ServingModes.bothModes [ServingModes.initialized]) ServingModes.toVersion3 0
    (some (.outside 5)) 0 _ rfl
  have hstamps : Standard.servingModes.Stamps _ _ := hstamps
  exact ⟨hof.name, hof.targetVersion, hstamps.state, hstamps.namespaceName, hstamps.version⟩

end ProtocolCheck

end Preflight

import Preflight.Proofs.ServingModes

/-! # What blocks an upgrade
Which checks of the standard catalog state a failure that blocks the upgrade, in terms of what the cluster holds. -/
namespace Preflight

def Report.BlockedBy (r : Report) (checkId : String) : Prop :=
  ∃ o ∈ r.outcomes, o.checkId = checkId ∧ o.outcome.failsBlocking = true

namespace Inspection

theorem blocking_report (i : Inspection) (stop : Option Stop) :
    (i.report stop).summary.blocking =
      (i.report stop).outcomes.countP fun o => o.outcome.failsBlocking := by
  rw [report_outcomes]
  exact (Report.blocking_foldl_add _ _).trans (Nat.zero_add _)

theorem blocking_report_eq_zero_iff (i : Inspection) (stop : Option Stop) :
    (i.report stop).summary.blocking = 0 ↔ ∀ checkId, ¬ (i.report stop).BlockedBy checkId := by
  rw [blocking_report, List.countP_eq_zero]
  constructor
  · rintro h checkId ⟨o, ho, -, hblocking⟩
    exact h o ho hblocking
  · intro h o ho hblocking
    exact h o.checkId ⟨o, ho, rfl, hblocking⟩

theorem hasBlockingFailures_iff (i : Inspection) (stop : Option Stop) :
    (i.report stop).hasBlockingFailures = true ↔ ∃ checkId, (i.report stop).BlockedBy checkId := by
  rw [← not_iff_not, not_exists, ← blocking_report_eq_zero_iff]
  simp [Report.hasBlockingFailures]

end Inspection

def Check.Blocks (c : Check) (cluster : Cluster) (u : Upgrade) : Prop :=
  ∃ f : Finding, (c.evaluate u).answer cluster = .ok f ∧ f.failsBlocking = true

theorem Check.blocks_of_ok {c : Check} {cluster : Cluster} {u : Upgrade} {f : Finding}
    (h : (c.evaluate u).answer cluster = .ok f) : c.Blocks cluster u ↔ f.failsBlocking = true := by
  constructor
  · rintro ⟨f', hf', hblocking⟩
    cases h.symm.trans hf'
    exact hblocking
  · intro hblocking
    exact ⟨f, h, hblocking⟩

theorem Check.not_blocks_of_error {c : Check} {cluster : Cluster} {u : Upgrade} {e : Fault}
    (h : (c.evaluate u).answer cluster = .error e) : ¬ c.Blocks cluster u := by
  rintro ⟨f, hf, -⟩
  cases h.symm.trans hf

namespace Inspection

variable {cluster : Cluster} {u : Upgrade} {t : Timestamp} {c : Check}

theorem standard_blockedBy_iff (hc : c ∈ Standard.checks) :
    ((standard cluster u t).report none).BlockedBy c.about.id ↔ c.applies u = .ok true ∧ c.Blocks cluster u := by
  have honly : ((standard cluster u t).report none).BlockedBy c.about.id ↔
      ((standard cluster u t).outcomeAlone c).failsBlocking = true := by
    constructor
    · rintro ⟨o, ho, hid, hblocking⟩
      rw [eq_of_mem_report_none (uncancelled_of_neverCancels neverCancels_of_mem_standard) hc ho hid] at hblocking
      exact hblocking
    · intro hblocking
      exact ⟨_, List.mem_of_find?_eq_some (standard_outcome? hc), rfl, hblocking⟩
  rw [honly]
  obtain ⟨applies, happlies⟩ := exists_applies_of_mem_standard hc u
  cases applies with
  | false =>
    rw [standard_outcomeAlone_of_refused happlies, happlies]
    simp [Outcome.failsBlocking]
  | true =>
    cases hanswer : (c.evaluate u).answer cluster with
    | error e =>
      rw [standard_outcomeAlone_of_error hc happlies hanswer]
      simp [Outcome.failsBlocking, Check.not_blocks_of_error hanswer]
    | ok f =>
      rw [standard_outcomeAlone_of_ok hc happlies hanswer]
      simp [Outcome.failsBlocking, happlies, Check.blocks_of_ok hanswer]

/-- Whatever blocks an upgrade is a standard check that applies to it. -/
theorem exists_of_standard_blockedBy {checkId : String}
    (h : ((standard cluster u t).report none).BlockedBy checkId) :
    ∃ c ∈ Standard.checks, c.about.id = checkId ∧ c.applies u = .ok true ∧ c.Blocks cluster u := by
  obtain ⟨o, ho, rfl, hblocking⟩ := id h
  rw [report_none_outcomes neverCancels_of_mem_standard] at ho
  obtain ⟨c, hc, rfl⟩ := List.mem_map.1 ho
  exact ⟨c, hc, rfl, (standard_blockedBy_iff hc).1 h⟩

end Inspection

/-- A component check blocks an upgrade through its policy only. -/
theorem ComponentCheck.exists_policy_of_blocks {c : ComponentCheck} {cluster : Cluster} {u : Upgrade}
    (h : c.toCheck.Blocks cluster u) : ∃ o state ns finding f, cluster.list c.singleton {} = .ok [o] ∧
      c.readState o = .ok state ∧ c.isAbout state = true ∧ finding.conditions = [] ∧
      (c.policy ⟨c.component, o, state, ns, u⟩ finding).answer cluster = .ok f ∧ f.failsBlocking = true := by
  obtain ⟨f, hanswer, hblocking⟩ := h
  have hends := c.ends cluster u
  rw [show (c.evaluate u).answer cluster = .ok f from hanswer] at hends
  generalize hr : (Except.ok f : Except Fault Finding) = r at hends
  cases hends with
  | unread hread => cases hr
  | absent hread =>
    cases hr
    cases hblocking
  | malformed hread hstate => cases hr
  | unconcerned hread hstate habout =>
    cases hr
    cases hblocking
  | plain hread hstate habout hneeds =>
    exact ⟨_, _, _, _, f, Cluster.only_eq_some_iff.1 hread, hstate, habout, rfl, hr.symm, hblocking⟩
  | namespaceUnread hread hstate habout hneeds hnamespace => cases hr
  | uninitialized hread hstate habout hneeds hnamespace =>
    cases hr
    cases hblocking
  | unnamed hread hstate habout hneeds hnamespace hunset =>
    cases hr
    cases hblocking
  | named hread hstate habout hneeds hnamespace hset =>
    exact ⟨_, _, _, _, f, Cluster.only_eq_some_iff.1 hread, hstate, habout, rfl, hr.symm, hblocking⟩

namespace Standard

variable {cluster : Cluster} {u : Upgrade}

def CodeFlareIs (o : Object) (state : String) : Prop :=
  FieldPath.Reaches ["spec", "components", "codeflare", "managementState"] o.body (.str state)

theorem codeFlareIs_iff {o : Object} {state : String} :
    CodeFlareIs o state ↔ o.get? codeFlare.statePath = some (.str state) :=
  (FieldPath.get?_eq_str_iff (p := codeFlare.statePath)).symm

theorem exists_isAbout_codeFlare_iff {o : Object} :
    (∃ state, codeFlare.readState o = .ok state ∧ codeFlare.isAbout state = true) ↔
      CodeFlareIs o "Managed" ∨ CodeFlareIs o "Unmanaged" := by
  rw [codeFlareIs_iff, codeFlareIs_iff]
  constructor
  · rintro ⟨state, hstate, habout⟩
    rcases ComponentCheck.readState_eq_ok_iff.1 hstate with hname | ⟨-, rfl⟩
    · cases state with
      | managed => exact .inl hname
      | unmanaged => exact .inr hname
      | removed => cases habout
    · cases habout
  · rintro (hname | hname)
    · exact ⟨.managed, ComponentCheck.readState_eq_ok_iff.2 (.inl hname), rfl⟩
    · exact ⟨.unmanaged, ComponentCheck.readState_eq_ok_iff.2 (.inl hname), rfl⟩

private theorem codeFlare_blocks_iff :
    codeFlare.toCheck.Blocks cluster u ↔ ∃ o, cluster.list .dataScienceCluster {} = .ok [o] ∧
      (CodeFlareIs o "Managed" ∨ CodeFlareIs o "Unmanaged") := by
  constructor
  · intro h
    obtain ⟨o, state, ns, finding, f, hlist, hstate, habout, -⟩ := ComponentCheck.exists_policy_of_blocks h
    exact ⟨o, hlist, exists_isAbout_codeFlare_iff.1 ⟨state, hstate, habout⟩⟩
  · rintro ⟨o, hlist, hname⟩
    have hread : cluster.only codeFlare.singleton = .ok (some o) := Cluster.only_of_singleton hlist
    obtain ⟨state, hstate, habout⟩ := exists_isAbout_codeFlare_iff.2 hname
    exact (Check.blocks_of_ok (ComponentCheck.answer_of_plain hread hstate habout rfl u)).2 rfl

/-- The check on serving modes blocks for nothing but a managed mode. -/
theorem managed_of_servingModes_blocks (h : servingModes.toCheck.Blocks cluster u) :
    ∃ o modes, cluster.list .dataScienceCluster {} = .ok [o] ∧ ServingModes.states o.body = .ok modes ∧
      (modes.serverless = some .managed ∨ modes.modelMesh = some .managed) := by
  obtain ⟨o, state, ns, finding, f, hlist, -, -, hfinding, hf, hblocking⟩ :=
    ComponentCheck.exists_policy_of_blocks h
  cases hstates : ServingModes.states o.body with
  | error e => cases hf.symm.trans (ServingModes.answer_policy_of_error ⟨_, o, _, _, _⟩ hstates _ cluster)
  | ok modes =>
    obtain ⟨f', hf', hconditions⟩ :=
      ServingModes.answer_policy_of_ok ⟨servingModes.component, o, state, ns, u⟩ hstates finding cluster
    cases hf.symm.trans hf'
    rw [hfinding, List.nil_append] at hconditions
    exact ⟨o, modes, hlist, hstates, (ServingModes.failsBlocking_iff_of_conditions hconditions).1 hblocking⟩

private theorem answer_countItems {α : Type} (impact : Impact) (what : String) (view : WorkloadView α)
    (finding : Finding)
    (cluster : Cluster) : ∃ f : Finding, (countItems impact what view finding).answer cluster = .ok f ∧
      (f.failsBlocking = true ↔ finding.failsBlocking = true ∨ impact = .blocking ∧ view.items ≠ []) := by
  refine ⟨_, rfl, ?_⟩
  rw [Finding.failsBlocking_state, Bool.or_eq_true]
  by_cases hitems : view.items = []
  · simp [hitems, Condition.failsBlocking, Condition.fails]
  · simp [hitems, Condition.failsBlocking, Condition.fails]

theorem blocks_countItems_iff {α : Type} [Item α] {c : WorkloadCheck α} {impact : Impact} {what : String}
    {p : α → Bool} (hpolicy : c.policy = countItems impact what) (hfilter : ∀ item, c.filter item = .ok (p item)) :
    c.toCheck.Blocks cluster u ↔ impact = .blocking ∧ ∃ os, cluster.list c.resource c.options = .ok os ∧
      ∃ o ∈ os, p (Item.ofObject c.resource o) = true := by
  cases hlist : orEmpty (cluster.list c.resource c.options) with
  | error e =>
    have hanswer := WorkloadCheck.answer_of_unread hlist u
    refine iff_of_false (Check.not_blocks_of_error hanswer) ?_
    rintro ⟨-, os, hos, -⟩
    cases hlist.symm.trans (orEmpty_eq_ok_iff.2 (.inl hos))
  | ok os =>
    obtain ⟨f, hf, hblocking⟩ := answer_countItems impact what
      ⟨(os.map (Item.ofObject c.resource)).filter p, c.resource, u⟩
      (c.countedFinding u ((os.map (Item.ofObject c.resource)).filter p)) cluster
    have hanswer := WorkloadCheck.answer_of_items hlist (WorkloadCheck.keep_of_total hfilter _) u
    rw [hpolicy, hf] at hanswer
    rw [Check.blocks_of_ok hanswer, WorkloadCheck.failsBlocking_affect, hblocking]
    have hitems : (os.map (Item.ofObject c.resource)).filter p ≠ [] ↔
        ∃ o ∈ os, p (Item.ofObject c.resource o) = true := by
      simp [List.filter_eq_nil_iff]
    constructor
    · rintro (hbefore | ⟨himpact, hne⟩)
      · cases hbefore
      · refine ⟨himpact, os, ?_, hitems.1 hne⟩
        rcases orEmpty_eq_ok_iff.1 hlist with hos | ⟨rfl, -⟩
        · exact hos
        · exact absurd rfl hne
    · rintro ⟨himpact, os', hos', hmem⟩
      cases hlist.symm.trans (orEmpty_eq_ok_iff.2 (.inl hos'))
      exact .inr ⟨himpact, hitems.2 hmem⟩

def UsesModelMesh (o : Object) : Prop :=
  FieldPath.Reaches ["metadata", "annotations", "serving.kserve.io/deploymentMode"] o.body (.str "ModelMesh")

private theorem usesModelMesh_iff {o : Object} :
    UsesModelMesh o ↔ Item.annotationOf o deploymentMode = some "ModelMesh" :=
  (FieldPath.entry?_eq_some_iff (by decide) (by decide)).symm

private theorem modelMeshServices_blocks_iff :
    modelMeshServices.toCheck.Blocks cluster u ↔
      ∃ os, cluster.list .inferenceService {} = .ok os ∧ ∃ o ∈ os, UsesModelMesh o := by
  rw [blocks_countItems_iff (c := modelMeshServices) rfl fun item => rfl]
  simp only [true_and, decide_eq_true_eq, usesModelMesh_iff]
  rfl

private theorem not_notebooks_blocks : ¬ notebooks.toCheck.Blocks cluster u := by
  rw [blocks_countItems_iff (c := notebooks) rfl fun item => rfl]
  rintro ⟨himpact, -⟩
  cases himpact

private theorem conclude_operator {c : OperatorCheck} {match? : Option Subscription} {condition : Condition}
    (hcondition : c.condition match?.isSome ((match?.map Subscription.installedVersion).getD "") = .ok condition)
    (finding : Finding) : ∃ f, c.conclude match? finding = .ok f ∧
      f.failsBlocking = (finding.failsBlocking || condition.failsBlocking) := by
  refine ⟨if (match?.map Subscription.installedVersion).getD "" = "" then finding.state condition
    else (finding.state condition).annotate Annotation.installedVersion
      ((match?.map Subscription.installedVersion).getD ""), ?_, ?_⟩
  · simp only [OperatorCheck.conclude, OperatorCheck.buildCondition, hcondition]
    rfl
  · split
    · exact Finding.failsBlocking_state _ _
    · rw [Finding.failsBlocking_annotate, Finding.failsBlocking_state]

/-- A check whose condition blocks only if the operator is there. -/
theorem blocks_operator_iff {c : OperatorCheck} {condition : Bool → String → Condition}
    (hcondition : ∀ found version, c.condition found version = .ok (condition found version))
    (hmissing : ∀ version, (condition false version).failsBlocking = false) :
    c.toCheck.Blocks cluster u ↔ cluster.managerAvailable = true ∧ ∃ ss s, cluster.subscriptions = .ok ss ∧
      ss.find? c.isMatch = some s ∧ (condition true s.installedVersion).failsBlocking = true := by
  have hanswer : (c.toCheck.evaluate u).answer cluster = _ := c.answer_evaluate cluster u
  cases hmanager : cluster.managerAvailable with
  | false =>
    rw [hmanager, if_neg Bool.false_ne_true, OperatorCheck.buildCondition, hcondition] at hanswer
    rw [Check.blocks_of_ok hanswer, Finding.failsBlocking_state]
    refine iff_of_false (fun hblocking => ?_) fun h => nomatch h.1
    cases (hmissing "").symm.trans hblocking
  | true =>
    rw [hmanager, if_pos rfl] at hanswer
    cases hsubscriptions : cluster.subscriptions with
    | error e =>
      rw [hsubscriptions] at hanswer
      refine iff_of_false (Check.not_blocks_of_error hanswer) ?_
      rintro ⟨-, ss, s, hss, -⟩
      cases hss
    | ok ss =>
      obtain ⟨f, hf, hblocking⟩ := conclude_operator (hcondition (ss.find? c.isMatch).isSome _)
        (c.about.stampedFinding u)
      rw [hsubscriptions] at hanswer
      rw [Check.blocks_of_ok (hanswer.trans hf), hblocking, CheckMeta.failsBlocking_stampedFinding, Bool.false_or]
      cases hfind : ss.find? c.isMatch with
      | none =>
        refine iff_of_false (fun h => ?_) ?_
        · cases (hmissing _).symm.trans h
        · rintro ⟨-, ss', s, hss', hs, -⟩
          cases hss'
          cases hfind.symm.trans hs
      | some s =>
        constructor
        · intro h
          exact ⟨rfl, ss, s, rfl, hfind, h⟩
        · rintro ⟨-, ss', s', hss', hs', h⟩
          cases hss'
          cases hfind.symm.trans hs'
          exact h

theorem serviceMesh_isMatch_iff {s : Subscription} :
    serviceMesh.isMatch s = true ↔
      s.name = "servicemeshoperator" ∧ (s.channel = "stable" ∨ s.channel = "v2.x") := by
  have hchannel : s.channel = "stable" ∨ s.channel = "v2.x" → s.channel ≠ "" := by
    rintro (h | h) <;> rw [h] <;> decide
  change (decide (s.name = "servicemeshoperator") && (false || (decide (s.channel ≠ "") &&
    ["stable", "v2.x"].contains s.channel))) = true ↔ _
  simp only [Bool.false_or, Bool.and_eq_true, decide_eq_true_eq, List.contains_eq_mem, List.mem_cons,
    List.not_mem_nil, or_false]
  exact and_congr_right fun _ => ⟨fun h => h.2, fun h => ⟨hchannel h, h⟩⟩

private theorem serviceMesh_blocks_iff :
    serviceMesh.toCheck.Blocks cluster u ↔ cluster.managerAvailable = true ∧ ∃ ss, cluster.subscriptions = .ok ss ∧
      ∃ s ∈ ss, s.name = "servicemeshoperator" ∧ (s.channel = "stable" ∨ s.channel = "v2.x") := by
  rw [blocks_operator_iff (c := serviceMesh) (fun _ _ => rfl) fun _ => rfl]
  refine and_congr_right fun _ => exists_congr fun ss => ?_
  constructor
  · rintro ⟨s, hss, hfind, -⟩
    exact ⟨hss, s, List.mem_of_find?_eq_some hfind, serviceMesh_isMatch_iff.1 (List.find?_some hfind)⟩
  · rintro ⟨hss, s, hs, hmatch⟩
    obtain ⟨s', hfind⟩ := Option.isSome_iff_exists.1
      (List.find?_isSome.2 ⟨s, hs, serviceMesh_isMatch_iff.2 hmatch⟩)
    exact ⟨s', hss, hfind, rfl⟩

theorem not_authorino_blocks : ¬ authorino.toCheck.Blocks cluster u := by
  rw [blocks_operator_iff (c := authorino) (fun _ _ => rfl) fun _ => rfl]
  rintro ⟨-, ss, s, -, -, hblocking⟩
  cases hblocking

end Standard

namespace Inspection

variable {cluster : Cluster} {u : Upgrade} {t : Timestamp} {c : Check}

/-- In an upgrade from version 2 to version 3 nothing stands between a check and its outcome. -/
theorem standard_blockedBy_iff_of_upgrade (hupgrade : u.is2To3 = true) (hc : c ∈ Standard.checks)
    (hgate : c.applies u = .ok u.is2To3) :
    ((standard cluster u t).report none).BlockedBy c.about.id ↔ c.Blocks cluster u :=
  (standard_blockedBy_iff hc).trans (and_iff_right (hgate.trans (congrArg Except.ok hupgrade)))

/-- A check that blocks is not the one without a gate. -/
theorem is2To3_of_standard_blockedBy {checkId : String}
    (h : ((standard cluster u t).report none).BlockedBy checkId) : u.is2To3 = true := by
  obtain ⟨c, hc, -, happlies, hblocks⟩ := exists_of_standard_blockedBy h
  simp only [Standard.checks, List.mem_cons, List.not_mem_nil, or_false] at hc
  rcases hc with rfl | rfl | rfl | rfl | rfl | rfl
  · exact Except.ok.inj happlies
  · exact Except.ok.inj happlies
  · exact Except.ok.inj happlies
  · exact Except.ok.inj happlies
  · exact Except.ok.inj happlies
  · exact absurd hblocks Standard.not_authorino_blocks

private theorem mem_ids_of_standard_blockedBy {checkId : String}
    (h : ((standard cluster u t).report none).BlockedBy checkId) : checkId ∈ Standard.catalog.ids := by
  obtain ⟨c, hc, rfl, -⟩ := exists_of_standard_blockedBy h
  exact List.mem_map_of_mem hc

/-- In a run of the standard catalog with the settings left as they are, nothing blocks but an upgrade from version
2 to version 3, and such an upgrade is blocked for just these reasons: CodeFlare is not removed, an inference
service is deployed with ModelMesh, or the second version of the service mesh is subscribed to; and by the check on
serving modes only if one of them is managed. -/
theorem standard_verdict (cluster : Cluster) (u : Upgrade) (t : Timestamp) :
    let r := (standard cluster u t).report none
    ((¬ ∃ a b, u.current = some a ∧ u.target = some b ∧ a.major = 2 ∧ b.major = 3) → r.summary.blocking = 0) ∧
      ((∃ a b, u.current = some a ∧ u.target = some b ∧ a.major = 2 ∧ b.major = 3) →
        (r.BlockedBy "components.codeflare.removal" ↔ ∃ o, cluster.list .dataScienceCluster {} = .ok [o] ∧
          (Standard.CodeFlareIs o "Managed" ∨ Standard.CodeFlareIs o "Unmanaged")) ∧
        (r.BlockedBy "workloads.inferenceservice.modelmesh" ↔
          ∃ os, cluster.list .inferenceService {} = .ok os ∧ ∃ o ∈ os, Standard.UsesModelMesh o) ∧
        (r.BlockedBy "dependencies.servicemesh.v2" ↔ cluster.managerAvailable = true ∧
          ∃ ss, cluster.subscriptions = .ok ss ∧
            ∃ s ∈ ss, s.name = "servicemeshoperator" ∧ (s.channel = "stable" ∨ s.channel = "v2.x")) ∧
        (r.BlockedBy "components.kserve.serverless-removal" →
          ∃ o modes, cluster.list .dataScienceCluster {} = .ok [o] ∧ ServingModes.states o.body = .ok modes ∧
            (modes.serverless = some .managed ∨ modes.modelMesh = some .managed))) ∧
      ¬ r.BlockedBy "workloads.notebook.inventory" ∧
      ¬ r.BlockedBy "dependencies.authorino.presence" ∧
      r.summary.blocking = r.outcomes.countP (fun o => o.outcome.failsBlocking) ∧
      (r.hasBlockingFailures = true ↔ ∃ checkId ∈ Standard.catalog.ids, r.BlockedBy checkId) := by
  intro r
  have hblocks : ∀ c ∈ Standard.checks, r.BlockedBy c.about.id → c.Blocks cluster u :=
    fun _ hc h => ((standard_blockedBy_iff hc).1 h).2
  refine ⟨?_, ?_, ?_, ?_, blocking_report _ _, ?_⟩
  · intro hne
    rw [blocking_report_eq_zero_iff]
    exact fun _ h => hne (Upgrade.is2To3_iff.1 (is2To3_of_standard_blockedBy h))
  · intro hupgrade
    have hblockedBy : ∀ c ∈ Standard.checks, c.applies u = .ok u.is2To3 →
        (r.BlockedBy c.about.id ↔ c.Blocks cluster u) :=
      fun _ => standard_blockedBy_iff_of_upgrade (Upgrade.is2To3_iff.2 hupgrade)
    refine ⟨?_, ?_, ?_, ?_⟩
    · have hcodeFlare := hblockedBy Standard.codeFlare.toCheck (by simp [Standard.checks]) rfl
      exact hcodeFlare.trans Standard.codeFlare_blocks_iff
    · have hmodelMesh := hblockedBy Standard.modelMeshServices.toCheck (by simp [Standard.checks]) rfl
      exact hmodelMesh.trans Standard.modelMeshServices_blocks_iff
    · have hserviceMesh := hblockedBy Standard.serviceMesh.toCheck (by simp [Standard.checks]) rfl
      exact hserviceMesh.trans Standard.serviceMesh_blocks_iff
    · intro h
      exact Standard.managed_of_servingModes_blocks
        (hblocks Standard.servingModes.toCheck (by simp [Standard.checks]) h)
  · intro h
    exact Standard.not_notebooks_blocks (hblocks Standard.notebooks.toCheck (by simp [Standard.checks]) h)
  · intro h
    exact Standard.not_authorino_blocks (hblocks Standard.authorino.toCheck (by simp [Standard.checks]) h)
  · rw [hasBlockingFailures_iff]
    exact exists_congr fun _ => (and_iff_right_of_imp mem_ids_of_standard_blockedBy).symm

def unmanagedCodeFlare : Cluster where
  inventory :=
    { objects := [(.dataScienceCluster, ⟨.obj [("spec", .obj [("components", .obj
        [("codeflare", .obj [("managementState", .str "Unmanaged")])])])]⟩)]
      installed := [.dataScienceCluster] }

/-- It blocks the upgrade to the next version, and nothing where no version is known. -/
theorem unmanagedCodeFlare_verdict :
    let r (u : Upgrade) : Report := (standard unmanagedCodeFlare u .epoch).report none
    (r { current := some (.ofMinor 2 17), target := some (.ofMinor 3 0) }).BlockedBy
        "components.codeflare.removal" ∧
      (r {}).summary.blocking = 0 := by
  intro r
  constructor
  · have hverdict := standard_verdict unmanagedCodeFlare
      { current := some (.ofMinor 2 17), target := some (.ofMinor 3 0) } .epoch
    refine (hverdict.2.1 ⟨_, _, rfl, rfl, rfl, rfl⟩).1.2 ⟨_, rfl, .inr ?_⟩
    exact FieldPath.walk?_eq_some_iff.1 rfl
  · refine (standard_verdict unmanagedCodeFlare {} .epoch).1 ?_
    rintro ⟨a, b, hcurrent, -⟩
    cases hcurrent

end Inspection

end Preflight

import Preflight.Proofs.Codecs
import Preflight.Proofs.PathLookup
import Preflight.Proofs.StandardRuns

/-! # Removed serving modes
A serving mode that is managed blocks the upgrade, whatever becomes of the other mode, unless the check on serving
modes ends before it looks at them: because of the state of the component itself, or for want of a namespace for the
applications. -/
namespace Preflight

namespace ServingModes

def serverlessPath : FieldPath := { segments := ["spec", "components", "kserve", "serving"], valid := by decide }

def modelMeshPath : FieldPath := { segments := ["spec", "components", "modelmeshserving"], valid := by decide }

def stateUnder (p : FieldPath) : FieldPath where
  segments := p.segments ++ ["managementState"]
  valid := by
    rw [List.all_append, p.valid]
    decide

/-- The state of the mode that is set up under a path, from nothing but what stands there. -/
def stateAt (o : Object) (p : FieldPath) : Decoded (Option ManagementState) :=
  match o.get? p with
  | none => .ok none
  | some component => managedComponent component

theorem stateAt_of_reaches {o : Object} {p : FieldPath} (state : ManagementState)
    (h : FieldPath.Reaches (stateUnder p).segments o.body (.str state.name)) : stateAt o p = .ok (some state) := by
  have hwalk : FieldPath.walk? (p.segments ++ ["managementState"]) o.body = some (.str state.name) :=
    FieldPath.walk?_eq_some_iff.2 h
  rw [FieldPath.walk?_append] at hwalk
  obtain ⟨component, hcomponent, hstate⟩ := Option.bind_eq_some_iff.1 hwalk
  rw [FieldPath.walk?_cons_of_name (by decide)] at hstate
  obtain ⟨value, hvalue, hname⟩ := Option.bind_eq_some_iff.1 hstate
  obtain rfl : value = .str state.name := Option.some.inj hname
  obtain ⟨members, rfl, hfind⟩ := Json.eq_obj_of_member? hvalue
  have hget : o.get? p = some (.obj members) := FieldPath.lookup_of_walk? hcomponent (by simp)
  rw [stateAt, hget]
  simp only [managedComponent, Json.asRecord, Slots.optional, Slots.defaulted, Slots.find, hfind]
  cases state <;> rfl

/-- The mode that is set up under a path says that it is managed. -/
def SaysManaged (o : Object) (p : FieldPath) : Prop :=
  FieldPath.Reaches (stateUnder p).segments o.body (.str "Managed")

theorem eq_managed_of_saysManaged {o : Object} {p : FieldPath} {state : Option ManagementState}
    (hstate : stateAt o p = .ok state) (hstated : SaysManaged o p) : state = some .managed := by
  have hmanaged : stateAt o p = .ok (some .managed) := stateAt_of_reaches .managed hstated
  rw [hstate] at hmanaged
  exact Except.ok.inj hmanaged

/-- Decoding a mode out of the members of an object succeeds only with what a path to the mode finds. -/
theorem stateAt_of_defaulted {o : Object} {p : FieldPath} {members : List (String × Json)} {key : String}
    (hwalk : FieldPath.walk? p.segments o.body = Entries.find? key members) {state : Option ManagementState}
    (h : (Slots.members members).defaulted key managedComponent none = .ok state) : stateAt o p = .ok state := by
  unfold stateAt Object.get? FieldPath.lookup
  rw [hwalk]
  rcases Slots.cases_of_defaulted h with ⟨hfind, rfl⟩ | ⟨component, hfind, hcomponent⟩
  · rw [hfind]
  · rw [hfind]
    cases component with
    | null => cases hcomponent
    | _ => exact hcomponent

/-- All that lies on the way to the state of the component is an object, if that state is a text. -/
theorem exists_sections_of_managed {o : Object} (h : Standard.servingModes.readState o = .ok .managed) :
    ∃ (specValue : Json) (members kserveMembers : List (String × Json)),
      o.body.member? "spec" = some specValue ∧ specValue.member? "components" = some (.obj members) ∧
      Entries.find? "kserve" members = some (.obj kserveMembers) := by
  have hget : o.get? Standard.servingModes.statePath = some (.str "Managed") := by
    rcases ComponentCheck.readState_eq_ok_iff.1 h with hname | ⟨-, hne⟩
    · exact hname
    · cases hne
  have hwalk : FieldPath.walk? ["spec", "components", "kserve", "managementState"] o.body = some (.str "Managed") :=
    FieldPath.walk?_of_lookup hget
  obtain ⟨specValue, hspec, hwalk⟩ := FieldPath.exists_member?_of_walk? (by decide) hwalk
  obtain ⟨componentsValue, hcomponents, hwalk⟩ := FieldPath.exists_member?_of_walk? (by decide) hwalk
  obtain ⟨kserveValue, hkserve, hwalk⟩ := FieldPath.exists_member?_of_walk? (by decide) hwalk
  obtain ⟨stateValue, hstate, -⟩ := FieldPath.exists_member?_of_walk? (by decide) hwalk
  obtain ⟨kserveMembers, rfl, -⟩ := Json.eq_obj_of_member? hstate
  obtain ⟨members, rfl, hfind⟩ := Json.eq_obj_of_member? hkserve
  exact ⟨specValue, members, kserveMembers, hspec, hcomponents, hfind⟩

/-- Where the sections are objects, the two modes are decoded from the members of two of them. -/
theorem defaulted_of_states {body specValue : Json} {members kserveMembers : List (String × Json)}
    (hspec : body.member? "spec" = some specValue)
    (hcomponents : specValue.member? "components" = some (.obj members))
    (hkserve : Entries.find? "kserve" members = some (.obj kserveMembers)) {modes : States}
    (h : states body = .ok modes) :
    (Slots.members kserveMembers).defaulted "serving" managedComponent none = .ok modes.serverless ∧
      (Slots.members members).defaulted "modelmeshserving" managedComponent none = .ok modes.modelMesh := by
  unfold states at h
  rw [Json.asRecord_of_member? hspec] at h
  unfold spec at h
  rw [Json.asRecord_of_member? hcomponents] at h
  have hdecode : (do
      let serverless ← kserveComponent (.obj kserveMembers)
      let modelMesh ← (Slots.members members).defaulted "modelmeshserving" managedComponent none
      return { serverless, modelMesh } : Decoded States) = .ok modes := by
    rw [← h]
    simp only [components, Json.asRecord, Slots.defaulted, Slots.find, hkserve]
  obtain ⟨serverless, hserverless, hdecode⟩ := exists_of_bind_eq_ok hdecode
  obtain ⟨modelMesh, hmodelMesh, hdecode⟩ := exists_of_bind_eq_ok hdecode
  cases hdecode
  exact ⟨hserverless, hmodelMesh⟩

/-- If the component itself is managed, each mode is decoded from its own place. -/
theorem stateAt_of_states {o : Object} (hkserve : Standard.servingModes.readState o = .ok .managed) {modes : States}
    (h : states o.body = .ok modes) :
    stateAt o serverlessPath = .ok modes.serverless ∧ stateAt o modelMeshPath = .ok modes.modelMesh := by
  obtain ⟨specValue, members, kserveMembers, hspec, hcomponents, hfind⟩ := exists_sections_of_managed hkserve
  have hkserveMember : (Json.obj members).member? "kserve" = some (.obj kserveMembers) := hfind
  have hserverless : FieldPath.walk? serverlessPath.segments o.body = Entries.find? "serving" kserveMembers := by
    rw [serverlessPath, FieldPath.walk?_of_member? (by decide) hspec,
      FieldPath.walk?_of_member? (by decide) hcomponents, FieldPath.walk?_of_member? (by decide) hkserveMember,
      FieldPath.walk?_singleton (by decide)]
    rfl
  have hmodelMesh : FieldPath.walk? modelMeshPath.segments o.body = Entries.find? "modelmeshserving" members := by
    rw [modelMeshPath, FieldPath.walk?_of_member? (by decide) hspec,
      FieldPath.walk?_of_member? (by decide) hcomponents, FieldPath.walk?_singleton (by decide)]
    rfl
  obtain ⟨hs, hm⟩ := defaulted_of_states hspec hcomponents hfind h
  exact ⟨stateAt_of_defaulted hserverless hs, stateAt_of_defaulted hmodelMesh hm⟩

/-- The faults with which the check ends: of a singleton that cannot be read, of a state that is none, and of a body
that does not decode once the namespace is known. -/
inductive Fails (cluster : Cluster) (o : Object) : Fault → Prop
  | unread {e : Fault} (hread : cluster.only .dataScienceCluster = .error e) : Fails cluster o e
  | malformed {e : Fault} (hread : cluster.only .dataScienceCluster = .ok (some o))
    (hstate : Standard.servingModes.readState o = .error e) : Fails cluster o e
  | namespaceUnread {e : Fault} (hread : cluster.only .dataScienceCluster = .ok (some o))
    (hstate : Standard.servingModes.readState o = .ok .managed)
    (hnamespace : cluster.only .initialization = .error e) : Fails cluster o e
  | undecodable {initialization : Object} {ns : String} {e : DecodeError}
    (hread : cluster.only .dataScienceCluster = .ok (some o))
    (hstate : Standard.servingModes.readState o = .ok .managed)
    (hnamespace : cluster.only .initialization = .ok (some initialization))
    (hset : ComponentCheck.applicationsNamespace? initialization = some ns)
    (hstates : states o.body = .error e) : Fails cluster o (.undecodable ("DataScienceCluster " ++ Item.name o) e)

/-- The one condition with which the check ends before it looks at the modes. -/
inductive EndsBefore (cluster : Cluster) (o : Object) : Condition → Prop
  | unconcerned {state : ManagementState} (hread : cluster.only .dataScienceCluster = .ok (some o))
    (hstate : Standard.servingModes.readState o = .ok state) (hne : state ≠ .managed) :
    EndsBefore cluster o (ComponentCheck.noActionRequired "kserve" state)
  | uninitialized (hread : cluster.only .dataScienceCluster = .ok (some o))
    (hstate : Standard.servingModes.readState o = .ok .managed)
    (hnamespace : cluster.only .initialization = .ok none) :
    EndsBefore cluster o (.resourceNotFound .initialization)
  | unnamed {initialization : Object} (hread : cluster.only .dataScienceCluster = .ok (some o))
    (hstate : Standard.servingModes.readState o = .ok .managed)
    (hnamespace : cluster.only .initialization = .ok (some initialization))
    (hunset : ComponentCheck.applicationsNamespace? initialization = none) :
    EndsBefore cluster o ComponentCheck.namespaceUnset

/-- The check comes to look at the modes and finds them in these states. -/
inductive LooksAt (cluster : Cluster) (o : Object) : States → Prop
  | named {initialization : Object} {ns : String} {modes : States}
    (hread : cluster.only .dataScienceCluster = .ok (some o))
    (hstate : Standard.servingModes.readState o = .ok .managed)
    (hnamespace : cluster.only .initialization = .ok (some initialization))
    (hset : ComponentCheck.applicationsNamespace? initialization = some ns)
    (hstates : states o.body = .ok modes) : LooksAt cluster o modes

theorem answer_policy_of_error (view : ComponentView) {e : DecodeError} (h : states view.singleton.body = .error e)
    (finding : Finding) (cluster : Cluster) :
    (policy view finding).answer cluster =
      .error (.undecodable ("DataScienceCluster " ++ Item.name view.singleton) e) := by
  unfold policy
  rw [h]
  rfl

theorem answer_policy_of_ok (view : ComponentView) {modes : States} (h : states view.singleton.body = .ok modes)
    (finding : Finding) (cluster : Cluster) :
    ∃ f : Finding, (policy view finding).answer cluster = .ok f ∧ f.conditions = finding.conditions ++
      [modeCondition serverlessMode "KServe Serverless" modes.serverless,
        modeCondition modelMeshMode "ModelMesh" modes.modelMesh] := by
  refine ⟨(finding.state (modeCondition serverlessMode "KServe Serverless" modes.serverless)).state
    (modeCondition modelMeshMode "ModelMesh" modes.modelMesh), ?_, ?_⟩
  · unfold policy
    rw [h]
    rfl
  · rw [Finding.conditions_state, Finding.conditions_state, List.append_assoc]
    rfl

theorem failsBlocking_modeCondition (type mode : String) (state : Option ManagementState) :
    (modeCondition type mode state).failsBlocking = true ↔ state = some .managed := by
  cases state with
  | none => simp [modeCondition, Condition.failsBlocking, Condition.fails]
  | some state => cases state <;> simp [modeCondition, Condition.failsBlocking, Condition.fails]

theorem failsBlocking_iff_of_conditions {f : Finding} {type mode type' mode' : String}
    {serverless modelMesh : Option ManagementState}
    (hf : f.conditions = [modeCondition type mode serverless, modeCondition type' mode' modelMesh]) :
    f.failsBlocking = true ↔ serverless = some .managed ∨ modelMesh = some .managed := by
  unfold Finding.failsBlocking
  rw [hf, List.any_cons, List.any_cons, List.any_nil, Bool.or_false, Bool.or_eq_true, failsBlocking_modeCondition,
    failsBlocking_modeCondition]

variable {cluster : Cluster} {o : Object} {u : Upgrade} {t : Timestamp}

/-- One of the three ways is gone, whatever the cluster holds besides the singleton. -/
theorem fails_or_endsBefore_or_looksAt
    (hread : ∀ found, cluster.only .dataScienceCluster = .ok found → found = some o) :
    (∃ e, Fails cluster o e) ∨ (∃ condition, EndsBefore cluster o condition) ∨
      ∃ modes, LooksAt cluster o modes := by
  cases honly : cluster.only .dataScienceCluster with
  | error e => exact .inl ⟨e, .unread honly⟩
  | ok found =>
    rw [hread found honly] at honly
    cases hstate : Standard.servingModes.readState o with
    | error e => exact .inl ⟨e, .malformed honly hstate⟩
    | ok state =>
      by_cases hmanaged : state = .managed
      · rw [hmanaged] at hstate
        cases hnamespace : cluster.only .initialization with
        | error e => exact .inl ⟨e, .namespaceUnread honly hstate hnamespace⟩
        | ok found =>
          cases found with
          | none => exact .inr (.inl ⟨_, .uninitialized honly hstate hnamespace⟩)
          | some initialization =>
            cases hset : ComponentCheck.applicationsNamespace? initialization with
            | none => exact .inr (.inl ⟨_, .unnamed honly hstate hnamespace hset⟩)
            | some ns =>
              cases hstates : states o.body with
              | error e => exact .inl ⟨_, .undecodable honly hstate hnamespace hset hstates⟩
              | ok modes => exact .inr (.inr ⟨modes, .named honly hstate hnamespace hset hstates⟩)
      · exact .inr (.inl ⟨_, .unconcerned honly hstate hmanaged⟩)

theorem LooksAt.stateAt {modes : States} (h : LooksAt cluster o modes) :
    stateAt o serverlessPath = .ok modes.serverless ∧ stateAt o modelMeshPath = .ok modes.modelMesh := by
  obtain ⟨-, hstate, -, -, hstates⟩ := h
  exact stateAt_of_states hstate hstates

private theorem answer_of_fails {e : Fault} (h : Fails cluster o e) (u : Upgrade) :
    (Standard.servingModes.evaluate u).answer cluster = .error e := by
  cases h with
  | unread hread => exact ComponentCheck.answer_of_unread (c := Standard.servingModes) hread u
  | malformed hread hstate => exact ComponentCheck.answer_of_malformed (c := Standard.servingModes) hread hstate u
  | namespaceUnread hread hstate hnamespace =>
    exact ComponentCheck.answer_of_namespaceUnread (c := Standard.servingModes) hread hstate rfl rfl hnamespace u
  | undecodable hread hstate hnamespace hset hstates =>
    rw [ComponentCheck.answer_of_named (c := Standard.servingModes) hread hstate rfl rfl hnamespace hset]
    exact answer_policy_of_error ⟨_, o, _, _, _⟩ hstates _ cluster

private theorem answer_of_endsBefore {condition : Condition} (h : EndsBefore cluster o condition) (u : Upgrade) :
    ∃ f : Finding, (Standard.servingModes.evaluate u).answer cluster = .ok f ∧ f.conditions = [condition] := by
  cases h with
  | @unconcerned state hread hstate hne =>
    have habout : Standard.servingModes.isAbout state = false := by
      cases state with
      | managed => exact absurd rfl hne
      | _ => rfl
    exact ⟨_, ComponentCheck.answer_of_unconcerned (c := Standard.servingModes) hread hstate habout u, rfl⟩
  | uninitialized hread hstate hnamespace =>
    exact ⟨_, ComponentCheck.answer_of_uninitialized (c := Standard.servingModes)
      hread hstate rfl rfl hnamespace u, rfl⟩
  | unnamed hread hstate hnamespace hunset =>
    exact ⟨_, ComponentCheck.answer_of_unnamed (c := Standard.servingModes)
      hread hstate rfl rfl hnamespace hunset u, rfl⟩

private theorem answer_of_looksAt {modes : States} (h : LooksAt cluster o modes) (u : Upgrade) :
    ∃ f : Finding, (Standard.servingModes.evaluate u).answer cluster = .ok f ∧
      f.conditions = [modeCondition serverlessMode "KServe Serverless" modes.serverless,
        modeCondition modelMeshMode "ModelMesh" modes.modelMesh] := by
  obtain ⟨hread, hstate, hnamespace, hset, hstates⟩ := h
  rw [ComponentCheck.answer_of_named (c := Standard.servingModes) hread hstate rfl rfl hnamespace hset]
  exact answer_policy_of_ok ⟨_, o, _, _, _⟩ hstates _ cluster

section Applicable

variable (happlies : Standard.servingModes.toCheck.applies u = .ok true)

include happlies

theorem outcomeAlone_of_fails {e : Fault} (h : Fails cluster o e) :
    (Inspection.standard cluster u t).outcomeAlone Standard.servingModes.toCheck = .errored e.message :=
  Inspection.standard_outcomeAlone_of_error List.mem_cons_self happlies (answer_of_fails h u)

theorem outcomeAlone_of_endsBefore {condition : Condition} (h : EndsBefore cluster o condition) :
    ∃ f : Finding,
      (Inspection.standard cluster u t).outcomeAlone Standard.servingModes.toCheck = .completed (f.dated t) ∧
        f.conditions = [condition] := by
  obtain ⟨f, hf, hconditions⟩ := answer_of_endsBefore h u
  exact ⟨f, Inspection.standard_outcomeAlone_of_ok List.mem_cons_self happlies hf, hconditions⟩

theorem outcomeAlone_of_looksAt {modes : States} (h : LooksAt cluster o modes) :
    ∃ f : Finding,
      (Inspection.standard cluster u t).outcomeAlone Standard.servingModes.toCheck = .completed (f.dated t) ∧
        f.conditions = [modeCondition serverlessMode "KServe Serverless" modes.serverless,
          modeCondition modelMeshMode "ModelMesh" modes.modelMesh] := by
  obtain ⟨f, hf, hconditions⟩ := answer_of_looksAt h u
  exact ⟨f, Inspection.standard_outcomeAlone_of_ok List.mem_cons_self happlies hf, hconditions⟩

/-- Nothing but a fault makes the check errored. -/
theorem outcomeAlone_eq_errored_iff
    (hread : ∀ found, cluster.only .dataScienceCluster = .ok found → found = some o) {message : String} :
    (Inspection.standard cluster u t).outcomeAlone Standard.servingModes.toCheck = .errored message ↔
      ∃ e, Fails cluster o e ∧ message = e.message := by
  constructor
  · intro herrored
    rcases fails_or_endsBefore_or_looksAt hread with ⟨e, h⟩ | ⟨condition, h⟩ | ⟨modes, h⟩
    · exact ⟨e, h, Outcome.errored.inj (herrored.symm.trans (outcomeAlone_of_fails happlies h))⟩
    · obtain ⟨f, hcompleted, -⟩ := outcomeAlone_of_endsBefore happlies h
      cases herrored.symm.trans hcompleted
    · obtain ⟨f, hcompleted, -⟩ := outcomeAlone_of_looksAt happlies h
      cases herrored.symm.trans hcompleted
  · rintro ⟨e, h, rfl⟩
    exact outcomeAlone_of_fails happlies h

end Applicable

/-- With one singleton in which a mode is managed, the check is errored just by a fault, ends before it looks at the
modes with the one condition that is stated there, or looks at the modes. Then it states a condition for each mode
by what is set up for that mode alone, which blocks the upgrade if the mode is managed. -/
theorem outcome_of_managed_mode (cluster : Cluster) (u : Upgrade) (t : Timestamp) (o : Object) (a b : Version)
    (hobjects : cluster.inventory.objectsOf .dataScienceCluster = [o])
    (hinstalled : ∀ e, cluster.list .dataScienceCluster {} = .error e → e.isTypeNotInstalled = false)
    (hmode : SaysManaged o serverlessPath ∨ SaysManaged o modelMeshPath)
    (hcurrent : u.current = some a) (htarget : u.target = some b) (hmajor : a.major = 2 ∧ b.major = 3) :
    ∃ outcome, ((Inspection.standard cluster u t).report none).outcome? "components.kserve.serverless-removal" =
        some ⟨"components.kserve.serverless-removal", outcome⟩ ∧
      (∀ message, outcome = .errored message ↔ ∃ e, Fails cluster o e ∧ message = e.message) ∧
      (∀ condition, EndsBefore cluster o condition →
        ∃ f : Finding, outcome = .completed (f.dated t) ∧ f.conditions = [condition]) ∧
      (∀ modes, LooksAt cluster o modes → ∃ f : Finding, outcome = .completed (f.dated t) ∧ f.failsBlocking = true ∧
        stateAt o serverlessPath = .ok modes.serverless ∧ stateAt o modelMeshPath = .ok modes.modelMesh ∧
        (SaysManaged o serverlessPath → modes.serverless = some .managed) ∧
        (SaysManaged o modelMeshPath → modes.modelMesh = some .managed) ∧
        f.conditions = [modeCondition "ServerlessMode" "KServe Serverless" modes.serverless,
          modeCondition "ModelMeshMode" "ModelMesh" modes.modelMesh]) ∧
      ((∃ e, Fails cluster o e) ∨ (∃ condition, EndsBefore cluster o condition) ∨
        ∃ modes, LooksAt cluster o modes) := by
  have happlies : Standard.servingModes.toCheck.applies u = .ok true :=
    congrArg Except.ok (Upgrade.is2To3_iff.2 ⟨a, b, hcurrent, htarget, hmajor⟩)
  have hread : ∀ found, cluster.only .dataScienceCluster = .ok found → found = some o :=
    fun _ => Cluster.eq_some_of_only hobjects hinstalled
  refine ⟨_, Inspection.standard_outcome? List.mem_cons_self, fun _ => outcomeAlone_eq_errored_iff happlies hread,
    fun _ => outcomeAlone_of_endsBefore happlies, ?_, fails_or_endsBefore_or_looksAt hread⟩
  intro modes h
  obtain ⟨f, hcompleted, hconditions⟩ := outcomeAlone_of_looksAt happlies h
  obtain ⟨hserverless, hmodelMesh⟩ := h.stateAt
  have hblocking : f.failsBlocking = true := (failsBlocking_iff_of_conditions hconditions).2
    (hmode.imp (eq_managed_of_saysManaged hserverless) (eq_managed_of_saysManaged hmodelMesh))
  exact ⟨f, hcompleted, hblocking, hserverless, hmodelMesh, eq_managed_of_saysManaged hserverless,
    eq_managed_of_saysManaged hmodelMesh, hconditions⟩

def toVersion3 : Upgrade := { current := some (.ofMinor 2 17), target := some (.ofMinor 3 0) }

/-- A cluster with one singleton that has these components, and with these initializations. -/
def clusterWith (components : Json) (initializations : List Object) : Cluster where
  inventory :=
    { objects := (.dataScienceCluster, ⟨.obj [("spec", .obj [("components", components)])]⟩) ::
        initializations.map fun o => (.initialization, o)
      installed := [.dataScienceCluster, .initialization] }

def initialized : Object := ⟨.obj [("spec", .obj [("applicationsNamespace", .str "opendatahub")])]⟩

def bothModes : Json :=
  .obj [
    ("kserve",
      .obj [("managementState", .str "Managed"), ("serving", .obj [("managementState", .str "Managed")])]),
    ("modelmeshserving", .obj [("managementState", .str "Managed")])]

theorem bothModes_block :
    (∃ o : Object, (clusterWith bothModes [initialized]).inventory.objectsOf .dataScienceCluster = [o] ∧
      SaysManaged o serverlessPath) ∧
      ∃ f : Finding,
        ((Inspection.standard (clusterWith bothModes [initialized]) toVersion3 .epoch).report none).outcome?
          "components.kserve.serverless-removal" =
        some ⟨"components.kserve.serverless-removal", .completed f⟩ ∧ f.failsBlocking = true := by
  have hinstalled : ∀ e, (clusterWith bothModes [initialized]).list .dataScienceCluster {} = .error e →
      e.isTypeNotInstalled = false := fun e h => nomatch (h : Except.ok _ = Except.error e)
  have hstated : SaysManaged ⟨.obj [("spec", .obj [("components", bothModes)])]⟩ serverlessPath :=
    FieldPath.walk?_eq_some_iff.1 rfl
  refine ⟨⟨_, rfl, hstated⟩, ?_⟩
  obtain ⟨outcome, hreported, -, -, hlooks, -⟩ :=
    outcome_of_managed_mode (clusterWith bothModes [initialized]) toVersion3 .epoch _
      (.ofMinor 2 17) (.ofMinor 3 0) rfl hinstalled (.inl hstated) rfl rfl ⟨rfl, rfl⟩
  obtain ⟨f, rfl, hblocking, -⟩ := hlooks _ (.named rfl rfl rfl rfl rfl)
  exact ⟨_, hreported, (Finding.failsBlocking_dated _ _).trans hblocking⟩

/-- A mode is managed, and yet the check is completed without a failure that blocks the upgrade. -/
def Overlooked (cluster : Cluster) : Prop :=
  ∃ o : Object, cluster.inventory.objectsOf .dataScienceCluster = [o] ∧
    cluster.list .dataScienceCluster {} = .ok [o] ∧ SaysManaged o modelMeshPath ∧
    ∃ f : Finding, ((Inspection.standard cluster toVersion3 .epoch).report none).outcome?
        "components.kserve.serverless-removal" =
      some ⟨"components.kserve.serverless-removal", .completed f⟩ ∧ f.failsBlocking = false

theorem overlooked_of_answer {cluster : Cluster} {o : Object} {f : Finding}
    (hobjects : cluster.inventory.objectsOf .dataScienceCluster = [o])
    (hlist : cluster.list .dataScienceCluster {} = .ok [o])
    (hstated : SaysManaged o modelMeshPath)
    (hanswer : (Standard.servingModes.evaluate toVersion3).answer cluster = .ok f) (hf : f.failsBlocking = false) :
    Overlooked cluster := by
  have hc : Standard.servingModes.toCheck ∈ Standard.checks := List.mem_cons_self
  refine ⟨o, hobjects, hlist, hstated, f.dated .epoch, ?_, (Finding.failsBlocking_dated _ _).trans hf⟩
  rw [← Inspection.standard_outcomeAlone_of_ok hc rfl hanswer]
  exact Inspection.standard_outcome? hc

def modelMeshOnly : Json :=
  .obj [("kserve", .obj [("managementState", .str "Removed")]),
    ("modelmeshserving", .obj [("managementState", .str "Managed")])]

/-- A managed mode is overlooked if the component itself is removed, if there is no initialization, and if there is
one that names no namespace. -/
theorem overlooked_managed_modes :
    Overlooked (clusterWith modelMeshOnly [initialized]) ∧ Overlooked (clusterWith bothModes []) ∧
      Overlooked (clusterWith bothModes [⟨.obj []⟩]) := by
  refine ⟨?_, ?_, ?_⟩
  · exact overlooked_of_answer rfl rfl (FieldPath.walk?_eq_some_iff.1 rfl) rfl rfl
  · exact overlooked_of_answer rfl rfl (FieldPath.walk?_eq_some_iff.1 rfl) rfl rfl
  · exact overlooked_of_answer rfl rfl (FieldPath.walk?_eq_some_iff.1 rfl) rfl rfl

end ServingModes

end Preflight

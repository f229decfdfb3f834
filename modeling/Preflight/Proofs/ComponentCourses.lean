import Preflight.Proofs.Continuations

/-! # The courses of a component check
What an evaluation of a component check comes to is decided by what the cluster holds, question by question: the
singleton, the state under its path, whether the check is about that state, and the namespace of the applications if
it is asked for. `ComponentCheck.Course` lists the answers to these questions with what each of them leads to, and
how many reads that takes. A question that the course does not come to has no part in it. -/
namespace Preflight

open Program

/-- The management state that is read from what a path leads to. -/
inductive ManagementState.ReadFrom (component : String) : Option Json → Except Fault ManagementState → Prop
  | missing : ReadFrom component none (.ok .removed)
  | null : ReadFrom component (some .null) (.ok .removed)
  | named (state : ManagementState) : ReadFrom component (some (.str state.name)) (.ok state)
  | unknown {text : String} (hunknown : ∀ state : ManagementState, text ≠ state.name) :
    ReadFrom component (some (.str text)) (.error (.managementState component text))
  | textless {v : Json} (hnull : v ≠ .null) (htext : ∀ text, v ≠ .str text) :
    ReadFrom component (some v) (.error (.managementState component v.compact))

namespace Cluster

variable {cluster : Cluster} {type : ResourceType}

theorem only_eq_error_iff {type : ResourceType} {e : Fault} :
    cluster.only type = .error e ↔
      ∃ source, singletonOf type (cluster.list type {}) = .error source ∧
        e = .read ("fetching " ++ type.kind) source := by
  unfold Cluster.only
  cases singletonOf type (cluster.list type {}) with
  | error source =>
    constructor
    · intro h
      cases h
      exact ⟨source, rfl, rfl⟩
    · rintro ⟨_, h, rfl⟩
      cases h
      rfl
  | ok found =>
    constructor
    · intro h
      cases h
    · rintro ⟨_, h, -⟩
      cases h

theorem only_eq_ok_iff {type : ResourceType} {found : Option Object} :
    cluster.only type = .ok found ↔ singletonOf type (cluster.list type {}) = .ok found := by
  unfold Cluster.only
  cases singletonOf type (cluster.list type {}) with
  | error source => exact iff_of_false nofun nofun
  | ok found' => exact ⟨fun h => congrArg Except.ok (Except.ok.inj h),
      fun h => congrArg Except.ok (Except.ok.inj h)⟩

end Cluster

namespace ComponentCheck

variable {c : ComponentCheck} {cluster : Cluster} {u : Upgrade}

/-- The namespace of the applications in what its path leads to, which is never the empty text. -/
inductive NamespaceIn : Option Json → Option String → Prop
  | named {ns : String} (hne : ns ≠ "") : NamespaceIn (some (.str ns)) (some ns)
  | unset {found : Option Json} (hunset : ∀ ns, found = some (.str ns) → ns = "") : NamespaceIn found none

inductive Turn where
  | ends (result : Except Fault Finding)
  | policy (view : ComponentView) (finding : Finding)

def Turn.program (c : ComponentCheck) : Turn → Program Finding
  | ends result => ofExcept result
  | policy view finding => c.policy view finding

/-- The turn to which the cluster leads an evaluation, and after how many reads. -/
inductive Course (c : ComponentCheck) (cluster : Cluster) (u : Upgrade) : Nat → Turn → Prop
  | unread {e : ReadFailure} (hread : singletonOf c.singleton (cluster.list c.singleton {}) = .error e) :
    Course c cluster u 1 (.ends (.error (.read ("fetching " ++ c.singleton.kind) e)))
  | absent (hread : singletonOf c.singleton (cluster.list c.singleton {}) = .ok none) :
    Course c cluster u 1 (.ends (.ok ((c.about.stampedFinding u).state
      { type := "Available", status := .false, reason := .resourceNotFound
        message := c.singleton.kind ++ " not found on the cluster" })))
  | malformed {o : Object} {e : Fault}
    (hread : singletonOf c.singleton (cluster.list c.singleton {}) = .ok (some o))
    (hstate : ManagementState.ReadFrom c.component (FieldPath.walk? c.statePath.segments o.body) (.error e)) :
    Course c cluster u 1 (.ends (.error e))
  | unconcerned {o : Object} {state : ManagementState} {states : List ManagementState}
    (hread : singletonOf c.singleton (cluster.list c.singleton {}) = .ok (some o))
    (hstate : ManagementState.ReadFrom c.component (FieldPath.walk? c.statePath.segments o.body) (.ok state))
    (hstates : c.requiredStates = some states) (hout : state ∉ states) :
    Course c cluster u 1 (.ends (.ok ((c.stateFinding u state).state
      { type := "Configured", status := .true, reason := .requirementsMet
        message := c.component ++ " is " ++ state.name ++ "; no action required" })))
  | plain {o : Object} {state : ManagementState}
    (hread : singletonOf c.singleton (cluster.list c.singleton {}) = .ok (some o))
    (hstate : ManagementState.ReadFrom c.component (FieldPath.walk? c.statePath.segments o.body) (.ok state))
    (hin : ∀ states, c.requiredStates = some states → state ∈ states) (hneeds : c.needsNamespace = false) :
    Course c cluster u 1 (.policy ⟨c.component, o, state, none, u⟩ (c.stateFinding u state))
  | namespaceUnread {o : Object} {state : ManagementState} {e : ReadFailure}
    (hread : singletonOf c.singleton (cluster.list c.singleton {}) = .ok (some o))
    (hstate : ManagementState.ReadFrom c.component (FieldPath.walk? c.statePath.segments o.body) (.ok state))
    (hin : ∀ states, c.requiredStates = some states → state ∈ states) (hneeds : c.needsNamespace = true)
    (hnamespace : singletonOf .initialization (cluster.list .initialization {}) = .error e) :
    Course c cluster u 2 (.ends (.error (.read "fetching DSCInitialization" e)))
  | uninitialized {o : Object} {state : ManagementState}
    (hread : singletonOf c.singleton (cluster.list c.singleton {}) = .ok (some o))
    (hstate : ManagementState.ReadFrom c.component (FieldPath.walk? c.statePath.segments o.body) (.ok state))
    (hin : ∀ states, c.requiredStates = some states → state ∈ states) (hneeds : c.needsNamespace = true)
    (hnamespace : singletonOf .initialization (cluster.list .initialization {}) = .ok none) :
    Course c cluster u 2 (.ends (.ok ((c.stateFinding u state).state
      { type := "Available", status := .false, reason := .resourceNotFound
        message := "DSCInitialization not found on the cluster" })))
  | unnamed {o initialization : Object} {state : ManagementState}
    (hread : singletonOf c.singleton (cluster.list c.singleton {}) = .ok (some o))
    (hstate : ManagementState.ReadFrom c.component (FieldPath.walk? c.statePath.segments o.body) (.ok state))
    (hin : ∀ states, c.requiredStates = some states → state ∈ states) (hneeds : c.needsNamespace = true)
    (hnamespace : singletonOf .initialization (cluster.list .initialization {}) = .ok (some initialization))
    (hunset : NamespaceIn (FieldPath.walk? ["spec", "applicationsNamespace"] initialization.body) none) :
    Course c cluster u 2 (.ends (.ok ((c.stateFinding u state).state
      { type := "Configured", status := .false, reason := .configurationInvalid
        message := "DSCInitialization has no .spec.applicationsNamespace set" })))
  | named {o initialization : Object} {state : ManagementState} {ns : String}
    (hread : singletonOf c.singleton (cluster.list c.singleton {}) = .ok (some o))
    (hstate : ManagementState.ReadFrom c.component (FieldPath.walk? c.statePath.segments o.body) (.ok state))
    (hin : ∀ states, c.requiredStates = some states → state ∈ states) (hneeds : c.needsNamespace = true)
    (hnamespace : singletonOf .initialization (cluster.list .initialization {}) = .ok (some initialization))
    (hset : NamespaceIn (FieldPath.walk? ["spec", "applicationsNamespace"] initialization.body) (some ns)) :
    Course c cluster u 2 (.policy ⟨c.component, o, state, some ns, u⟩
      ((c.stateFinding u state).annotate Annotation.applicationsNamespace ns))

theorem readFrom_iff {o : Object} {r : Except Fault ManagementState} :
    ManagementState.ReadFrom c.component (FieldPath.walk? c.statePath.segments o.body) r ↔ c.readState o = r := by
  unfold readState Object.get? FieldPath.lookup
  generalize FieldPath.walk? c.statePath.segments o.body = found
  constructor
  · intro h
    cases h with
    | missing => rfl
    | null => rfl
    | named state => simp only [ManagementState.ofName?_eq_some_iff.2 rfl]
    | @unknown text hunknown =>
      have hname : ManagementState.ofName? text = none := by
        rw [Option.eq_none_iff_forall_ne_some]
        exact fun state hstate => hunknown state (ManagementState.ofName?_eq_some_iff.1 hstate)
      simp only [hname]
    | @textless v hnull htext =>
      cases v with
      | null => exact absurd rfl hnull
      | str text => exact absurd rfl (htext text)
      | _ => rfl
  · rintro rfl
    rcases found with _ | v
    · exact .missing
    · cases v with
      | null => exact .null
      | str text =>
        dsimp only
        split
        · next state hstate =>
          rw [ManagementState.ofName?_eq_some_iff.1 hstate]
          exact .named state
        · next hnone =>
          refine .unknown fun state hstate => ?_
          rw [ManagementState.ofName?_eq_some_iff.2 hstate] at hnone
          cases hnone
      | _ => exact .textless nofun nofun

theorem namespaceIn_iff {initialization : Object} {ns : Option String} :
    NamespaceIn (FieldPath.walk? ["spec", "applicationsNamespace"] initialization.body) ns ↔
      applicationsNamespace? initialization = ns := by
  unfold applicationsNamespace? Object.get? FieldPath.lookup namespacePath
  generalize FieldPath.walk? ["spec", "applicationsNamespace"] initialization.body = found
  constructor
  · intro h
    cases h with
    | named hne => exact if_neg hne
    | unset hunset =>
      rcases found with _ | v
      · rfl
      · cases v with
        | str ns => exact if_pos (hunset ns rfl)
        | _ => rfl
  · rintro rfl
    rcases found with _ | v
    · exact .unset nofun
    · cases v with
      | str ns =>
        dsimp only
        split
        · next hempty => exact .unset fun _ h => by cases h; exact hempty
        · next hne => exact .named hne
      | _ => exact .unset nofun

theorem isAbout_iff {state : ManagementState} :
    c.isAbout state = true ↔ ∀ states, c.requiredStates = some states → state ∈ states := by
  unfold isAbout
  cases c.requiredStates with
  | none => simp
  | some states => simp

theorem not_isAbout_iff {state : ManagementState} :
    c.isAbout state = false ↔ ∃ states, c.requiredStates = some states ∧ state ∉ states := by
  unfold isAbout
  cases c.requiredStates with
  | none => simp
  | some states => simp

def turnOn (c : ComponentCheck) (cluster : Cluster) (u : Upgrade) : Nat × Turn :=
  match cluster.only c.singleton with
  | .error e => (1, .ends (.error e))
  | .ok none => (1, .ends (.ok ((c.about.stampedFinding u).state (.resourceNotFound c.singleton))))
  | .ok (some o) =>
    match c.readState o with
    | .error e => (1, .ends (.error e))
    | .ok state =>
      if c.isAbout state = true then
        if c.needsNamespace = true then
          match cluster.only .initialization with
          | .error e => (2, .ends (.error e))
          | .ok none => (2, .ends (.ok ((c.stateFinding u state).state (.resourceNotFound .initialization))))
          | .ok (some initialization) =>
            match applicationsNamespace? initialization with
            | none => (2, .ends (.ok ((c.stateFinding u state).state namespaceUnset)))
            | some ns => (2, .policy ⟨c.component, o, state, some ns, u⟩
                ((c.stateFinding u state).annotate Annotation.applicationsNamespace ns))
        else (1, .policy ⟨c.component, o, state, none, u⟩ (c.stateFinding u state))
      else (1, .ends (.ok ((c.stateFinding u state).state (noActionRequired c.component state))))

theorem Course.turnOn_eq {reads : Nat} {turn : Turn} (h : c.Course cluster u reads turn) :
    c.turnOn cluster u = (reads, turn) := by
  cases h with
  | unread hread => simp only [turnOn, Cluster.only_eq_error_iff.2 ⟨_, hread, rfl⟩]
  | absent hread =>
    simp only [turnOn, Cluster.only_eq_ok_iff.2 hread]
    rfl
  | malformed hread hstate => simp only [turnOn, Cluster.only_eq_ok_iff.2 hread, readFrom_iff.1 hstate]
  | unconcerned hread hstate hstates hout =>
    simp only [turnOn, Cluster.only_eq_ok_iff.2 hread, readFrom_iff.1 hstate,
      not_isAbout_iff.2 ⟨_, hstates, hout⟩, Bool.false_eq_true, if_false]
    rfl
  | plain hread hstate hin hneeds =>
    simp only [turnOn, Cluster.only_eq_ok_iff.2 hread, readFrom_iff.1 hstate, if_pos (isAbout_iff.2 hin), hneeds,
      Bool.false_eq_true, if_false]
  | namespaceUnread hread hstate hin hneeds hnamespace =>
    simp only [turnOn, Cluster.only_eq_ok_iff.2 hread, readFrom_iff.1 hstate, if_pos (isAbout_iff.2 hin),
      if_pos hneeds, Cluster.only_eq_error_iff.2 ⟨_, hnamespace, rfl⟩]
    rfl
  | uninitialized hread hstate hin hneeds hnamespace =>
    simp only [turnOn, Cluster.only_eq_ok_iff.2 hread, readFrom_iff.1 hstate, if_pos (isAbout_iff.2 hin),
      if_pos hneeds, Cluster.only_eq_ok_iff.2 hnamespace]
    rfl
  | unnamed hread hstate hin hneeds hnamespace hunset =>
    simp only [turnOn, Cluster.only_eq_ok_iff.2 hread, readFrom_iff.1 hstate, if_pos (isAbout_iff.2 hin),
      if_pos hneeds, Cluster.only_eq_ok_iff.2 hnamespace, namespaceIn_iff.1 hunset]
    rfl
  | named hread hstate hin hneeds hnamespace hset =>
    simp only [turnOn, Cluster.only_eq_ok_iff.2 hread, readFrom_iff.1 hstate, if_pos (isAbout_iff.2 hin),
      if_pos hneeds, Cluster.only_eq_ok_iff.2 hnamespace, namespaceIn_iff.1 hset]

theorem Course.unique {reads reads' : Nat} {turn turn' : Turn} (h : c.Course cluster u reads turn)
    (h' : c.Course cluster u reads' turn') : reads' = reads ∧ turn' = turn :=
  Prod.mk.inj (h'.turnOn_eq.symm.trans h.turnOn_eq)

/-- The courses once the namespace of the applications is asked for. -/
theorem exists_course_of_needed {o : Object} {state : ManagementState} (u : Upgrade)
    (hread : singletonOf c.singleton (cluster.list c.singleton {}) = .ok (some o))
    (hstate : ManagementState.ReadFrom c.component (FieldPath.walk? c.statePath.segments o.body) (.ok state))
    (hin : ∀ states, c.requiredStates = some states → state ∈ states) (hneeds : c.needsNamespace = true) :
    ∃ reads turn, c.Course cluster u reads turn := by
  cases hnamespace : singletonOf .initialization (cluster.list .initialization {}) with
  | error e => exact ⟨_, _, .namespaceUnread hread hstate hin hneeds hnamespace⟩
  | ok found =>
    cases found with
    | none => exact ⟨_, _, .uninitialized hread hstate hin hneeds hnamespace⟩
    | some initialization =>
      cases hset : applicationsNamespace? initialization with
      | none => exact ⟨_, _, .unnamed hread hstate hin hneeds hnamespace (namespaceIn_iff.2 hset)⟩
      | some ns => exact ⟨_, _, .named hread hstate hin hneeds hnamespace (namespaceIn_iff.2 hset)⟩

private theorem exists_course (c : ComponentCheck) (cluster : Cluster) (u : Upgrade) :
    ∃ reads turn, c.Course cluster u reads turn := by
  cases hread : singletonOf c.singleton (cluster.list c.singleton {}) with
  | error e => exact ⟨_, _, .unread hread⟩
  | ok found =>
    cases found with
    | none => exact ⟨_, _, .absent hread⟩
    | some o =>
      cases hstate : c.readState o with
      | error e => exact ⟨_, _, .malformed hread (readFrom_iff.2 hstate)⟩
      | ok state =>
        have hstate := readFrom_iff.2 hstate
        cases habout : c.isAbout state with
        | false =>
          obtain ⟨states, hstates, hout⟩ := not_isAbout_iff.1 habout
          exact ⟨_, _, .unconcerned hread hstate hstates hout⟩
        | true =>
          cases hneeds : c.needsNamespace with
          | false => exact ⟨_, _, .plain hread hstate (isAbout_iff.1 habout) hneeds⟩
          | true => exact exists_course_of_needed u hread hstate (isAbout_iff.1 habout) hneeds

/-- An evaluation that ends by itself states one condition. -/
theorem Course.exists_condition {reads : Nat} {finding : Finding}
    (h : c.Course cluster u reads (.ends (.ok finding))) : ∃ condition, finding.conditions = [condition] := by
  cases h with
  | absent hread => exact ⟨_, rfl⟩
  | unconcerned hread hstate hstates hout => exact ⟨_, rfl⟩
  | uninitialized hread hstate hin hneeds hnamespace => exact ⟨_, rfl⟩
  | unnamed hread hstate hin hneeds hnamespace hunset => exact ⟨_, rfl⟩

theorem run_of_state {o : Object} {state : ManagementState} (hread : cluster.only c.singleton = .ok (some o))
    (hstate : c.readState o = .ok state) (u : Upgrade) (position now : Nat) :
    (c.evaluate u).run cluster position none now =
      ((if c.isAbout state = true then c.conclude u o state (c.stateFinding u state)
        else .done ((c.stateFinding u state).state (noActionRequired c.component state))).run cluster position none
          (now + cluster.latency)).after 1 := by
  unfold evaluate
  rw [run_singleton_bind, hread]
  change ((c.inspect u o (c.about.stampedFinding u)).run cluster position none (now + cluster.latency)).after 1 = _
  unfold inspect
  rw [hstate]
  rfl

theorem run_of_needed {o : Object} {state : ManagementState} (hread : cluster.only c.singleton = .ok (some o))
    (hstate : c.readState o = .ok state) (habout : c.isAbout state = true) (hneeds : c.needsNamespace = true)
    {found : Except Fault (Option Object)} (hnamespace : cluster.only .initialization = found) (u : Upgrade)
    (position now : Nat) :
    (c.evaluate u).run cluster position none now =
      ((ofExcept found >>= fun found => match found with
        | none => .done ((c.stateFinding u state).state (.resourceNotFound .initialization))
        | some initialization => match applicationsNamespace? initialization with
          | none => .done ((c.stateFinding u state).state namespaceUnset)
          | some ns => c.policy ⟨c.component, o, state, some ns, u⟩
              ((c.stateFinding u state).annotate Annotation.applicationsNamespace ns)).run cluster position none
        (now + 2 * cluster.latency)).after 2 := by
  have htime : now + cluster.latency + cluster.latency = now + 2 * cluster.latency := by omega
  rw [run_of_state hread hstate, if_pos habout, conclude, if_pos hneeds, run_singleton_bind,
    Ending.after_after, htime, hnamespace]
  rfl

theorem Course.run_eq {reads : Nat} {turn : Turn} (h : c.Course cluster u reads turn) (position now : Nat) :
    (c.evaluate u).run cluster position none now =
      ((turn.program c).run cluster position none (now + reads * cluster.latency)).after reads := by
  cases h with
  | unread hread =>
    unfold evaluate
    rw [run_singleton_bind, Cluster.only_eq_error_iff.2 ⟨_, hread, rfl⟩, Nat.one_mul]
    rfl
  | absent hread =>
    unfold evaluate
    rw [run_singleton_bind, Cluster.only_eq_ok_iff.2 hread, Nat.one_mul]
    rfl
  | @malformed o e hread hstate =>
    unfold evaluate
    rw [run_singleton_bind, Cluster.only_eq_ok_iff.2 hread, Nat.one_mul]
    change ((c.inspect u o (c.about.stampedFinding u)).run cluster position none _).after 1 = _
    unfold inspect
    rw [readFrom_iff.1 hstate]
    rfl
  | unconcerned hread hstate hstates hout =>
    rw [run_of_state (Cluster.only_eq_ok_iff.2 hread) (readFrom_iff.1 hstate), Nat.one_mul,
      not_isAbout_iff.2 ⟨_, hstates, hout⟩]
    rfl
  | plain hread hstate hin hneeds =>
    rw [run_of_state (Cluster.only_eq_ok_iff.2 hread) (readFrom_iff.1 hstate), Nat.one_mul,
      if_pos (isAbout_iff.2 hin), conclude, hneeds]
    rfl
  | namespaceUnread hread hstate hin hneeds hnamespace =>
    exact run_of_needed (Cluster.only_eq_ok_iff.2 hread) (readFrom_iff.1 hstate) (isAbout_iff.2 hin) hneeds
      (Cluster.only_eq_error_iff.2 ⟨_, hnamespace, rfl⟩) u position now
  | uninitialized hread hstate hin hneeds hnamespace =>
    exact run_of_needed (Cluster.only_eq_ok_iff.2 hread) (readFrom_iff.1 hstate) (isAbout_iff.2 hin) hneeds
      (Cluster.only_eq_ok_iff.2 hnamespace) u position now
  | unnamed hread hstate hin hneeds hnamespace hunset =>
    have hrun := run_of_needed (Cluster.only_eq_ok_iff.2 hread) (readFrom_iff.1 hstate) (isAbout_iff.2 hin) hneeds
      (Cluster.only_eq_ok_iff.2 hnamespace) u position now
    simp only [ofExcept_ok_bind, namespaceIn_iff.1 hunset] at hrun
    exact hrun
  | named hread hstate hin hneeds hnamespace hset =>
    have hrun := run_of_needed (Cluster.only_eq_ok_iff.2 hread) (readFrom_iff.1 hstate) (isAbout_iff.2 hin) hneeds
      (Cluster.only_eq_ok_iff.2 hnamespace) u position now
    simp only [ofExcept_ok_bind, namespaceIn_iff.1 hset] at hrun
    exact hrun

/-- In a run that nothing cancels from outside an evaluation takes exactly one course, and the run is what is left
to do from the turn on, after the reads before it. Where the evaluation ends by itself, its finding states one
condition; otherwise the policy is handed what was found, and all that follows is its own. -/
theorem evaluate_takes_course (c : ComponentCheck) (cluster : Cluster) (u : Upgrade) (position now : Nat) :
    ∃ reads turn, c.Course cluster u reads turn ∧
      (∀ reads' turn', c.Course cluster u reads' turn' → reads' = reads ∧ turn' = turn) ∧
      (∀ finding, turn = .ends (.ok finding) → ∃ condition, finding.conditions = [condition]) ∧
      (c.evaluate u).run cluster position none now =
        ((turn.program c).run cluster position none (now + reads * cluster.latency)).after reads := by
  obtain ⟨reads, turn, hcourse⟩ := exists_course c cluster u
  refine ⟨reads, turn, hcourse, fun _ _ => hcourse.unique, ?_, hcourse.run_eq position now⟩
  rintro finding rfl
  exact hcourse.exists_condition

end ComponentCheck

end Preflight

import Preflight.Proofs.Continuations

/-! # The courses of an operator check
An operator check asks for the subscriptions once, if it can, and hands its condition whether one of them matches
and which version the first one that matches has. All else in the list of subscriptions is nothing to it: lists that
differ behind the first match, or in what does not match, are interchangeable. -/
namespace Preflight

open Program

def Cluster.withSubscriptions (cluster : Cluster) (subscriptions : List Subscription) : Cluster :=
  { cluster with inventory := { cluster.inventory with subscriptions } }

namespace OperatorCheck

variable {c : OperatorCheck} {cluster : Cluster} {u : Upgrade}

/-- A subscription matches by its name and, if there are channels to choose from, by being in one of them. -/
structure Matches (c : OperatorCheck) (s : Subscription) : Prop where
  name : (c.names = [] → s.name = c.about.kind) ∧ (c.names ≠ [] → s.name ∈ c.names)
  channel : c.channels ≠ [] → s.channel ≠ "" ∧ s.channel ∈ c.channels

theorem isMatch_iff {s : Subscription} : c.isMatch s = true ↔ c.Matches s := by
  have hname : (if c.names = [] then decide (s.name = c.about.kind) else c.names.contains s.name) = true ↔
      (c.names = [] → s.name = c.about.kind) ∧ (c.names ≠ [] → s.name ∈ c.names) := by
    by_cases hnone : c.names = []
    · simp [hnone]
    · simp [hnone]
  have hchannel : (decide (c.channels = []) || (decide (s.channel ≠ "") && c.channels.contains s.channel)) = true ↔
      (c.channels ≠ [] → s.channel ≠ "" ∧ s.channel ∈ c.channels) := by
    by_cases hnone : c.channels = []
    · simp [hnone]
    · simp [hnone]
  unfold isMatch
  rw [Bool.and_eq_true, hname, hchannel]
  exact ⟨fun h => ⟨h.1, h.2⟩, fun h => ⟨h.name, h.channel⟩⟩

/-- The order of the names and of the channels, and how often they are listed, is nothing to a match. -/
theorem isMatch_eq_of_mem_iff {names channels : List String} (hnames : ∀ name, name ∈ names ↔ name ∈ c.names)
    (hchannels : ∀ channel, channel ∈ channels ↔ channel ∈ c.channels) :
    ({ c with names, channels } : OperatorCheck).isMatch = c.isMatch := by
  have hnone : ∀ {xs ys : List String}, (∀ x, x ∈ xs ↔ x ∈ ys) → (xs = [] ↔ ys = []) := by
    intro xs ys h
    simp only [List.eq_nil_iff_forall_not_mem, h]
  funext s
  apply Bool.eq_iff_iff.2
  rw [isMatch_iff, isMatch_iff]
  constructor
  · rintro ⟨⟨hkind, hname⟩, hchannel⟩
    simp only [hnone hnames, hnone hchannels, hnames, hchannels, ne_eq] at hkind hname hchannel
    exact ⟨⟨hkind, hname⟩, hchannel⟩
  · rintro ⟨⟨hkind, hname⟩, hchannel⟩
    refine ⟨⟨?_, ?_⟩, ?_⟩ <;> simp only [hnone hnames, hnone hchannels, hnames, hchannels, ne_eq]
    · exact hkind
    · exact hname
    · exact hchannel

/-- What an evaluation comes to: a fault, or the condition for an operator that is found or not, and its version,
perhaps with another message. -/
inductive Turn where
  | fails (e : Fault)
  | builds (found : Bool) (version : String) (message : Option String)

/-- The turn to which the cluster leads an evaluation, and after how many reads. -/
inductive Course (c : OperatorCheck) (cluster : Cluster) : Nat → Turn → Prop
  | unavailable (hmanager : cluster.managerAvailable = false) :
    Course c cluster 0 (.builds false "" (some "OLM client not available"))
  | unread {e : ReadFailure} (hmanager : cluster.managerAvailable = true)
    (hfailure : cluster.subscriptionFailure = some e) :
    Course c cluster 1 (.fails (.read "listing subscriptions" e))
  | found {before : List Subscription} {s : Subscription} {behind : List Subscription}
    (hmanager : cluster.managerAvailable = true) (hfailure : cluster.subscriptionFailure = none)
    (hlist : cluster.inventory.subscriptions = before ++ s :: behind) (hbefore : ∀ s' ∈ before, ¬ c.Matches s')
    (hmatches : c.Matches s) : Course c cluster 1 (.builds true s.installedVersion none)
  | missing (hmanager : cluster.managerAvailable = true) (hfailure : cluster.subscriptionFailure = none)
    (hnone : ∀ s ∈ cluster.inventory.subscriptions, ¬ c.Matches s) : Course c cluster 1 (.builds false "" none)

/-- A finding with one condition, and with the version if that is not empty. -/
structure Reports (c : OperatorCheck) (u : Upgrade) (condition : Condition) (version : String) (f : Finding) :
    Prop where
  conditions : f.conditions = [condition]
  version : f.annotationOf Annotation.installedVersion = if version = "" then none else some version
  /-- The other annotations are those that the finding began with, and so is all else. -/
  others : ∀ key, key ≠ Annotation.installedVersion →
    f.annotationOf key = (c.about.stampedFinding u).annotationOf key
  rest : { f with conditions := [], annotations := (c.about.stampedFinding u).annotations } =
    c.about.stampedFinding u

/-- What the condition of the check makes of a turn. -/
inductive Gives (c : OperatorCheck) (u : Upgrade) : Turn → Except Fault Finding → Prop
  | fault (e : Fault) : Gives c u (.fails e) (.error e)
  | refused {found : Bool} {version : String} {message : Option String} {e : Fault}
    (hcondition : c.condition found version = .error e) :
    Gives c u (.builds found version message) (.error (.condition c.about.kind e))
  | stated {found : Bool} {version : String} {message : Option String} {condition : Condition} {f : Finding}
    (hcondition : c.condition found version = .ok condition)
    (hreports : c.Reports u { condition with message := message.getD condition.message } version f) :
    Gives c u (.builds found version message) (.ok f)

def versionIn? (c : OperatorCheck) (subscriptions : List Subscription) : Option String :=
  (subscriptions.find? c.isMatch).map Subscription.installedVersion

theorem versionIn?_append (c : OperatorCheck) (before behind : List Subscription) :
    c.versionIn? (before ++ behind) = (c.versionIn? before).or (c.versionIn? behind) := by
  unfold versionIn?
  rw [List.find?_append, Option.map_or]

theorem versionIn?_eq_none_iff {subscriptions : List Subscription} :
    c.versionIn? subscriptions = none ↔ ∀ s ∈ subscriptions, ¬ c.Matches s := by
  simp only [versionIn?, Option.map_eq_none_iff, List.find?_eq_none, isMatch_iff]

theorem versionIn?_cons_of_matches {s : Subscription} (h : c.Matches s) (behind : List Subscription) :
    c.versionIn? (s :: behind) = some s.installedVersion := by
  unfold versionIn?
  rw [List.find?_cons_of_pos (isMatch_iff.2 h), Option.map_some]

theorem exists_of_versionIn?_eq_some {subscriptions : List Subscription} {version : String}
    (h : c.versionIn? subscriptions = some version) :
    ∃ before s behind, subscriptions = before ++ s :: behind ∧ (∀ s' ∈ before, ¬ c.Matches s') ∧ c.Matches s ∧
      s.installedVersion = version := by
  obtain ⟨s, hfind, hversion⟩ := Option.map_eq_some_iff.1 h
  obtain ⟨hmatch, before, behind, rfl, hbefore⟩ := List.find?_eq_some_iff_append.1 hfind
  refine ⟨before, s, behind, rfl, fun s' hs' hmatches => ?_, isMatch_iff.1 hmatch, hversion⟩
  have hno := hbefore s' hs'
  rw [isMatch_iff.2 hmatches] at hno
  cases hno

def turnOn (c : OperatorCheck) (cluster : Cluster) : Nat × Turn :=
  if cluster.managerAvailable = true then
    match cluster.subscriptionFailure with
    | some e => (1, .fails (.read "listing subscriptions" e))
    | none =>
      match c.versionIn? cluster.inventory.subscriptions with
      | some version => (1, .builds true version none)
      | none => (1, .builds false "" none)
  else (0, .builds false "" (some "OLM client not available"))

theorem course_iff {reads : Nat} {turn : Turn} :
    c.Course cluster reads turn ↔ c.turnOn cluster = (reads, turn) := by
  unfold turnOn
  constructor
  · intro h
    cases h with
    | unavailable hmanager => rw [hmanager, if_neg Bool.false_ne_true]
    | unread hmanager hfailure => rw [if_pos hmanager, hfailure]
    | found hmanager hfailure hlist hbefore hmatches =>
      rw [if_pos hmanager, hfailure, hlist, versionIn?_append, versionIn?_eq_none_iff.2 hbefore,
        versionIn?_cons_of_matches hmatches]
      rfl
    | missing hmanager hfailure hnone =>
      rw [if_pos hmanager, hfailure, versionIn?_eq_none_iff.2 hnone]
  · intro h
    cases hmanager : cluster.managerAvailable with
    | false =>
      rw [hmanager, if_neg Bool.false_ne_true] at h
      cases h
      exact .unavailable hmanager
    | true =>
      rw [if_pos hmanager] at h
      cases hfailure : cluster.subscriptionFailure with
      | some e =>
        rw [hfailure] at h
        cases h
        exact .unread hmanager hfailure
      | none =>
        rw [hfailure] at h
        cases hversion : c.versionIn? cluster.inventory.subscriptions with
        | none =>
          rw [hversion] at h
          cases h
          exact .missing hmanager hfailure (versionIn?_eq_none_iff.1 hversion)
        | some version =>
          rw [hversion] at h
          cases h
          obtain ⟨before, s, behind, hlist, hbefore, hmatches, rfl⟩ := exists_of_versionIn?_eq_some hversion
          exact .found hmanager hfailure hlist hbefore hmatches

def Turn.result (c : OperatorCheck) (u : Upgrade) : Turn → Except Fault Finding
  | fails e => .error e
  | builds found version message => do
    let condition ← c.buildCondition found version
    let finding := (c.about.stampedFinding u).state { condition with message := message.getD condition.message }
    return if version = "" then finding else finding.annotate Annotation.installedVersion version

private theorem gives_result (turn : Turn) : c.Gives u turn (turn.result c u) := by
  cases turn with
  | fails e => exact .fault e
  | builds found version message =>
    cases hcondition : c.condition found version with
    | error e =>
      have hresult : (Turn.builds found version message).result c u = .error (.condition c.about.kind e) := by
        rw [Turn.result, buildCondition, hcondition]
        rfl
      rw [hresult]
      exact .refused hcondition
    | ok condition =>
      have hresult : (Turn.builds found version message).result c u = .ok
          (if version = "" then
            (c.about.stampedFinding u).state { condition with message := message.getD condition.message }
          else ((c.about.stampedFinding u).state { condition with
            message := message.getD condition.message }).annotate Annotation.installedVersion version) := by
        rw [Turn.result, buildCondition, hcondition]
        rfl
      rw [hresult]
      refine .stated hcondition ?_
      by_cases hversion : version = ""
      · simp only [if_pos hversion]
        exact ⟨rfl, (if_pos hversion).symm ▸ rfl, fun key _ => rfl, rfl⟩
      · simp only [if_neg hversion]
        refine ⟨rfl, ?_, ?_, rfl⟩
        · rw [Finding.annotationOf_annotate, if_pos rfl, if_neg hversion]
        · intro key hkey
          rw [Finding.annotationOf_annotate, if_neg hkey, Finding.annotationOf_state]

/-- The version that is looked for is the one of the turn, if there is a match. -/
theorem conclude_eq_result (c : OperatorCheck) (u : Upgrade) (match? : Option Subscription) :
    c.conclude match? (c.about.stampedFinding u) =
      (Turn.builds match?.isSome ((match?.map Subscription.installedVersion).getD "") none).result c u := by
  unfold conclude Turn.result
  dsimp only
  cases c.buildCondition match?.isSome ((match?.map Subscription.installedVersion).getD "") with
  | error e => rfl
  | ok condition => rfl

private theorem turnOn_of_read (hmanager : cluster.managerAvailable = true)
    (hfailure : cluster.subscriptionFailure = none) :
    c.turnOn cluster = (1, .builds (cluster.inventory.subscriptions.find? c.isMatch).isSome
      (((cluster.inventory.subscriptions.find? c.isMatch).map Subscription.installedVersion).getD "") none) := by
  unfold turnOn versionIn?
  rw [if_pos hmanager, hfailure]
  cases cluster.inventory.subscriptions.find? c.isMatch with
  | none => rfl
  | some s => rfl

theorem run_eq_turnOn (c : OperatorCheck) (cluster : Cluster) (u : Upgrade) (position now : Nat) :
    (c.evaluate u).run cluster position none now =
      { result := (c.turnOn cluster).2.result c u
        finish := now + (c.turnOn cluster).1 * cluster.latency
        reads := (c.turnOn cluster).1 } := by
  change (if cluster.managerAvailable = true then _ else _ : Program Finding).run cluster position none now = _
  cases hmanager : cluster.managerAvailable with
  | false =>
    have hturn : c.turnOn cluster = (0, .builds false "" (some Cluster.managerUnavailable)) :=
      if_neg (Bool.eq_false_iff.1 hmanager)
    rw [if_neg Bool.false_ne_true, hturn, Turn.result, Nat.zero_mul]
    cases c.buildCondition false "" with
    | error e => rfl
    | ok condition => rfl
  | true =>
    rw [if_pos rfl, run_allSubscriptions_bind]
    unfold Cluster.subscriptions
    rw [if_pos hmanager]
    cases hfailure : cluster.subscriptionFailure with
    | some e =>
      have hturn : c.turnOn cluster = (1, .fails (.read "listing subscriptions" e)) := by
        rw [turnOn, if_pos hmanager, hfailure]
      rw [hturn, Nat.one_mul]
      rfl
    | none =>
      rw [turnOn_of_read hmanager hfailure, Nat.one_mul, ← conclude_eq_result]
      change ((Program.ofExcept (c.conclude _ _)).run cluster position none (now + cluster.latency)).after 1 = _
      cases c.conclude (cluster.inventory.subscriptions.find? c.isMatch) (c.about.stampedFinding u) with
      | error e => rfl
      | ok f => rfl

/-- Lists of subscriptions that an evaluation cannot tell apart. -/
inductive Interchangeable (c : OperatorCheck) : List Subscription → List Subscription → Prop
  /-- Subscriptions that do not match may be put in, taken out and moved, anywhere. -/
  | unmatched {subscriptions subscriptions' : List Subscription}
    (h : subscriptions.filter c.isMatch = subscriptions'.filter c.isMatch) :
    Interchangeable c subscriptions subscriptions'
  /-- What stands behind a match is open. -/
  | behind {s : Subscription} (hmatches : c.Matches s) (before behind behind' : List Subscription) :
    Interchangeable c (before ++ s :: behind) (before ++ s :: behind')
  /-- The order is open where all matches have one version. -/
  | reordered {subscriptions subscriptions' : List Subscription} (hperm : subscriptions.Perm subscriptions')
    (hversion : ∀ s ∈ subscriptions, ∀ s' ∈ subscriptions, c.Matches s → c.Matches s' →
      s.installedVersion = s'.installedVersion) : Interchangeable c subscriptions subscriptions'
  | symm {subscriptions subscriptions' : List Subscription} (h : Interchangeable c subscriptions subscriptions') :
    Interchangeable c subscriptions' subscriptions
  | trans {first second third : List Subscription} (h : Interchangeable c first second)
    (h' : Interchangeable c second third) : Interchangeable c first third

private theorem versionIn?_eq_of_perm {subscriptions subscriptions' : List Subscription}
    (hperm : subscriptions.Perm subscriptions')
    (hversion : ∀ s ∈ subscriptions, ∀ s' ∈ subscriptions, c.Matches s → c.Matches s' →
      s.installedVersion = s'.installedVersion) : c.versionIn? subscriptions = c.versionIn? subscriptions' := by
  cases h : c.versionIn? subscriptions with
  | none =>
    have hnone := versionIn?_eq_none_iff.1 h
    exact (versionIn?_eq_none_iff.2 fun s hs => hnone s (hperm.mem_iff.2 hs)).symm
  | some version =>
    obtain ⟨before, s, behind, hlist, -, hmatches, rfl⟩ := exists_of_versionIn?_eq_some h
    have hs : s ∈ subscriptions := hlist ▸ List.mem_append_right _ List.mem_cons_self
    cases h' : c.versionIn? subscriptions' with
    | none => exact absurd hmatches (versionIn?_eq_none_iff.1 h' s (hperm.mem_iff.1 hs))
    | some version' =>
      obtain ⟨before', s', behind', hlist', -, hmatches', rfl⟩ := exists_of_versionIn?_eq_some h'
      have hs' : s' ∈ subscriptions := hperm.mem_iff.2 (hlist' ▸ List.mem_append_right _ List.mem_cons_self)
      exact congrArg some (hversion s hs s' hs' hmatches hmatches')

private theorem Interchangeable.versionIn?_eq {subscriptions subscriptions' : List Subscription}
    (h : c.Interchangeable subscriptions subscriptions') :
    c.versionIn? subscriptions = c.versionIn? subscriptions' := by
  induction h with
  | unmatched h =>
    unfold versionIn?
    rw [← List.head?_filter, h, List.head?_filter]
  | behind hmatches before behind behind' =>
    rw [versionIn?_append, versionIn?_append, versionIn?_cons_of_matches hmatches,
      versionIn?_cons_of_matches hmatches]
  | reordered hperm hversion => exact versionIn?_eq_of_perm hperm hversion
  | symm h ih => exact ih.symm
  | trans h h' ih ih' => exact ih.trans ih'

theorem Interchangeable.run_eq {subscriptions subscriptions' : List Subscription}
    (h : c.Interchangeable subscriptions subscriptions') (cluster : Cluster) (u : Upgrade) (position now : Nat) :
    (c.evaluate u).run (cluster.withSubscriptions subscriptions) position none now =
      (c.evaluate u).run (cluster.withSubscriptions subscriptions') position none now := by
  have hturn : c.turnOn (cluster.withSubscriptions subscriptions) =
      c.turnOn (cluster.withSubscriptions subscriptions') := by
    unfold turnOn Cluster.withSubscriptions
    rw [h.versionIn?_eq]
  rw [run_eq_turnOn, run_eq_turnOn, hturn]
  rfl

/-- The condition of the check counts for nothing but what a turn asks of it. -/
theorem run_eq_of_condition {condition : Bool → String → Except Fault Condition}
    (hcondition : ∀ found version message, (c.turnOn cluster).2 = .builds found version message →
      condition found version = c.condition found version) (u : Upgrade) (position now : Nat) :
    (({ c with condition } : OperatorCheck).evaluate u).run cluster position none now =
      (c.evaluate u).run cluster position none now := by
  have hturn : ({ c with condition } : OperatorCheck).turnOn cluster = c.turnOn cluster := rfl
  have hresult : (c.turnOn cluster).2.result { c with condition } u = (c.turnOn cluster).2.result c u := by
    cases h : (c.turnOn cluster).2 with
    | fails e => rfl
    | builds found version message => simp only [Turn.result, buildCondition, hcondition found version message h]
  rw [run_eq_turnOn, run_eq_turnOn, hturn, hresult]

private theorem run_eq_of_mem_iff {names channels : List String} (hnames : ∀ name, name ∈ names ↔ name ∈ c.names)
    (hchannels : ∀ channel, channel ∈ channels ↔ channel ∈ c.channels) (u : Upgrade) (position now : Nat) :
    (({ c with names, channels } : OperatorCheck).evaluate u).run cluster position none now =
      (c.evaluate u).run cluster position none now := by
  have hturn : ({ c with names, channels } : OperatorCheck).turnOn cluster = c.turnOn cluster := by
    unfold turnOn versionIn?
    rw [isMatch_eq_of_mem_iff hnames hchannels]
  have hresult : ∀ turn : Turn, turn.result { c with names, channels } u = turn.result c u := by
    intro turn
    cases turn with
    | fails e => rfl
    | builds found version message => rfl
  rw [run_eq_turnOn, run_eq_turnOn, hturn, hresult]

/-- In a run that nothing cancels from outside an evaluation takes exactly one course, the reads of the course are
all that it does, and its result is what the condition of the check makes of the turn, which asks the condition once
at most. Names and channels count as sets, and subscriptions up to what is interchangeable. -/
theorem evaluation_of_first_match (c : OperatorCheck) (cluster : Cluster) (u : Upgrade) (position now : Nat) :
    (∀ s, c.isMatch s = true ↔ c.Matches s) ∧
      (∃ reads turn result, c.Course cluster reads turn ∧
        (∀ reads' turn', c.Course cluster reads' turn' → reads' = reads ∧ turn' = turn) ∧
        c.Gives u turn result ∧
        (c.evaluate u).run cluster position none now =
          { result, finish := now + reads * cluster.latency, reads } ∧
        ∀ condition : Bool → String → Except Fault Condition,
          (∀ found version message, turn = .builds found version message →
            condition found version = c.condition found version) →
          (({ c with condition } : OperatorCheck).evaluate u).run cluster position none now =
            (c.evaluate u).run cluster position none now) ∧
      (∀ subscriptions subscriptions', c.Interchangeable subscriptions subscriptions' →
        (c.evaluate u).run (cluster.withSubscriptions subscriptions) position none now =
          (c.evaluate u).run (cluster.withSubscriptions subscriptions') position none now) ∧
      ∀ names channels : List String, (∀ name, name ∈ names ↔ name ∈ c.names) →
        (∀ channel, channel ∈ channels ↔ channel ∈ c.channels) →
        (({ c with names, channels } : OperatorCheck).evaluate u).run cluster position none now =
          (c.evaluate u).run cluster position none now := by
  have hcourse : c.Course cluster (c.turnOn cluster).1 (c.turnOn cluster).2 := course_iff.2 rfl
  refine ⟨fun s => isMatch_iff, ⟨_, _, _, hcourse, ?_, gives_result _, run_eq_turnOn c cluster u position now, ?_⟩,
    fun _ _ h => h.run_eq cluster u position now, ?_⟩
  · intro reads turn h
    have hturn := course_iff.1 h
    rw [hturn]
    exact ⟨rfl, rfl⟩
  · intro condition hcondition
    exact run_eq_of_condition hcondition u position now
  · intro names channels hnames hchannels
    exact run_eq_of_mem_iff hnames hchannels u position now

end OperatorCheck

end Preflight

import Preflight.Proofs.CancelledRuns
import Preflight.Proofs.Occupancy
import Preflight.Proofs.ProtocolChecks
import Preflight.Proofs.ServingModes

/-! # Reads of a run
A run counts the reads that its checks begin. Here the instants at which they are begun are recorded as well: none
is begun once the run is cancelled, and up to then a cancelled run begins the reads of the run that nothing cancels.
How many those are can be told from the configuration of the checks and from what the cluster holds. -/
namespace Preflight

private theorem filter_lt_eq_nil {l : List Nat} {instant : Nat} (h : ∀ t ∈ l, instant ≤ t) :
    l.filter (· < instant) = [] := by
  refine List.filter_eq_nil_iff.2 fun t ht => ?_
  have hle := h t ht
  simp only [decide_eq_true_eq]
  omega

private theorem map_range_length {α β : Type*} {l : List α} {f : Nat → β} {g : α → β}
    (h : ∀ k a, l[k]? = some a → f k = g a) : (List.range l.length).map f = l.map g := by
  apply List.ext_getElem?
  intro k
  rw [List.getElem?_map, List.getElem?_map]
  cases ha : l[k]? with
  | none =>
    have hk : (List.range l.length).length ≤ k := by
      rw [List.length_range]
      exact List.getElem?_eq_none_iff.1 ha
    rw [List.getElem?_eq_none hk, Option.map_none, Option.map_none]
  | some a =>
    rw [List.getElem?_range (List.getElem?_eq_some_iff.1 ha).1]
    exact congrArg some (h k a ha)

namespace Passage

/-- The instants of a read that begins at an instant if it begins at all, and of those that follow it. -/
def readInstants (now : Nat) (rest : Nat → List Nat) : Passage → List Nat
  | .refused => []
  | .brokenOff _ => [now]
  | .through time => now :: rest time

variable {stop : Option Stop} {position now duration instant t : Nat} {rest rest' : Nat → List Nat}

theorem cases_of_mem_readInstants (ht : t ∈ (Stop.passage stop position now duration).readInstants now rest) :
    t = now ∧ Stop.isOver stop position now = false ∨ ∃ time, now ≤ time ∧ t ∈ rest time := by
  have hbegun : Stop.passage stop position now duration ≠ .refused → Stop.isOver stop position now = false := by
    intro hpassage
    rw [← Bool.not_eq_true]
    exact fun hover => hpassage (if_pos hover)
  cases hpassage : Stop.passage stop position now duration with
  | refused =>
    rw [hpassage] at ht
    cases ht
  | brokenOff time =>
    rw [hpassage] at ht
    exact .inl ⟨List.mem_singleton.1 ht, hbegun (by rw [hpassage]; exact nofun)⟩
  | through time =>
    rw [hpassage] at ht
    rcases List.mem_cons.1 ht with heq | hrest
    · exact .inl ⟨heq, hbegun (by rw [hpassage]; exact nofun)⟩
    · exact .inr ⟨time, Stop.le_of_passage_through hpassage, hrest⟩

/-- A cancellation keeps a read that begins before it, and of the later ones those that do so as well. -/
theorem readInstants_outside (hle : ∀ t ∈ rest' (now + duration), now + duration ≤ t)
    (hrest : rest (now + duration) = (rest' (now + duration)).filter (· < instant)) :
    (Stop.passage (some (.outside instant)) position now duration).readInstants now rest =
      ((Stop.passage none position now duration).readInstants now rest').filter (· < instant) := by
  have hlate : instant ≤ now + duration → (rest' (now + duration)).filter (· < instant) = [] :=
    fun hinstant => filter_lt_eq_nil fun t ht => hinstant.trans (hle t ht)
  rw [Stop.passage_none]
  simp only [readInstants, List.filter_cons, decide_eq_true_eq]
  rcases Stop.passage_outside_cases instant position now duration with
    ⟨hpassage, hnow⟩ | ⟨hpassage, hnow, hend⟩ | ⟨hpassage, hnow, -⟩
  · rw [hpassage, if_neg (by omega), hlate (by omega)]
  · rw [hpassage, if_pos hnow, hlate (by omega)]
  · rw [hpassage, if_pos hnow, ← hrest]

end Passage

namespace Program

variable {α β : Type} {cluster : Cluster} {stop : Option Stop} {position now t : Nat}

/-- The instants at which the program begins its reads when it is run from an instant on. -/
def readInstants (cluster : Cluster) (position : Nat) : Program α → Option Stop → Nat → List Nat
  | .done _, _, _ | .fail _, _, _ => []
  | .list type options next, stop, now =>
    (Stop.passage stop position now cluster.latency).readInstants now fun time =>
      (next (cluster.list type options)).readInstants cluster position stop time
  | .subscriptions next, stop, now =>
    (Stop.passage stop position now cluster.latency).readInstants now fun time =>
      (next cluster.subscriptions).readInstants cluster position stop time
  | .wait milliseconds next, stop, now =>
    match Stop.passage stop position now milliseconds with
    | .through time => next.readInstants cluster position stop time
    | _ => []
  | .managerAvailable next, stop, now => (next cluster.managerAvailable).readInstants cluster position stop now
  | .cancel next, _, now => next.readInstants cluster position (some ⟨now, position⟩) now

/-- The instants are those of the reads that the run counts. -/
theorem length_readInstants (p : Program α) (cluster : Cluster) (position : Nat) (stop : Option Stop) (now : Nat) :
    (p.readInstants cluster position stop now).length = (p.run cluster position stop now).reads := by
  induction p generalizing stop now with
  | done a => rfl
  | fail e => rfl
  | list type options next ih =>
    simp only [readInstants, run]
    cases Stop.passage stop position now cluster.latency with
    | refused => rfl
    | brokenOff time => rfl
    | through time => exact congrArg (· + 1) (ih _ _ _)
  | subscriptions next ih =>
    simp only [readInstants, run]
    cases Stop.passage stop position now cluster.latency with
    | refused => rfl
    | brokenOff time => rfl
    | through time => exact congrArg (· + 1) (ih _ _ _)
  | wait milliseconds next ih =>
    simp only [readInstants, run]
    cases Stop.passage stop position now milliseconds with
    | refused => rfl
    | brokenOff time => rfl
    | through time => exact ih _ _
  | managerAvailable next ih => exact ih _ _ _
  | cancel next ih => exact ih _ _

theorem le_of_mem_readInstants {p : Program α} (ht : t ∈ p.readInstants cluster position stop now) : now ≤ t := by
  induction p generalizing stop now with
  | done a => cases ht
  | fail e => cases ht
  | list type options next ih =>
    rcases Passage.cases_of_mem_readInstants ht with ⟨rfl, -⟩ | ⟨time, htime, hrest⟩
    · exact le_rfl
    · exact htime.trans (ih _ hrest)
  | subscriptions next ih =>
    rcases Passage.cases_of_mem_readInstants ht with ⟨rfl, -⟩ | ⟨time, htime, hrest⟩
    · exact le_rfl
    · exact htime.trans (ih _ hrest)
  | wait milliseconds next ih =>
    unfold readInstants at ht
    split at ht
    next hpassage => exact (Stop.le_of_passage_through hpassage).trans (ih ht)
    · cases ht
  | managerAvailable next ih => exact ih _ ht
  | cancel next ih => exact ih ht

/-- No program begins a read once it finds the run cancelled, be it by itself. -/
theorem isOver_of_mem_readInstants {p : Program α} (ht : t ∈ p.readInstants cluster position stop now) :
    Stop.isOver stop position t = false := by
  induction p generalizing stop now with
  | done a => cases ht
  | fail e => cases ht
  | list type options next ih =>
    rcases Passage.cases_of_mem_readInstants ht with ⟨rfl, hbegun⟩ | ⟨time, -, hrest⟩
    · exact hbegun
    · exact ih _ hrest
  | subscriptions next ih =>
    rcases Passage.cases_of_mem_readInstants ht with ⟨rfl, hbegun⟩ | ⟨time, -, hrest⟩
    · exact hbegun
    · exact ih _ hrest
  | wait milliseconds next ih =>
    unfold readInstants at ht
    split at ht
    · exact ih ht
    · cases ht
  | managerAvailable next ih => exact ih _ ht
  | cancel next ih =>
    -- The program has cancelled the run itself, so nothing is left for it to begin.
    have hlater := le_of_mem_readInstants ht
    have hover := ih ht
    simp only [Stop.isOver, Bool.or_eq_false_iff, Bool.and_eq_false_iff, decide_eq_false_iff_not] at hover
    omega

theorem filter_readInstants_of_le {p : Program α} {instant : Nat} (h : instant ≤ now) :
    (p.readInstants cluster position stop now).filter (· < instant) = [] :=
  filter_lt_eq_nil fun _ ht => h.trans (le_of_mem_readInstants ht)

/-- Cancelled at an instant, a program begins those reads that it begins before that instant when it is left
alone. -/
theorem readInstants_outside {p : Program α} (h : p.NeverCancelsOn cluster) (instant position now : Nat) :
    p.readInstants cluster position (some (.outside instant)) now =
      (p.readInstants cluster position none now).filter (· < instant) := by
  induction p generalizing now with
  | done a => rfl
  | fail e => rfl
  | list type options next ih =>
    exact Passage.readInstants_outside (fun t ht => le_of_mem_readInstants ht) (ih _ h _)
  | subscriptions next ih =>
    exact Passage.readInstants_outside (fun t ht => le_of_mem_readInstants ht) (ih _ h _)
  | wait milliseconds next ih =>
    rcases Stop.passage_outside_cases instant position now milliseconds with
      ⟨hp, hle⟩ | ⟨hp, -, hgt⟩ | ⟨hp, -⟩
    · rw [filter_readInstants_of_le hle]
      simp only [readInstants, hp]
    · simp only [readInstants, hp, Stop.passage_none]
      rw [filter_readInstants_of_le hgt.le]
    · simp only [readInstants, hp, Stop.passage_none, ih h]
  | managerAvailable next ih => exact ih _ h now
  | cancel next ih => exact h.elim

private theorem readInstants_map (f : α → β) (p : Program α) (cluster : Cluster) (position : Nat)
    (stop : Option Stop)
    (now : Nat) : (f <$> p).readInstants cluster position stop now = p.readInstants cluster position stop now := by
  change (p.bind fun a => .done (f a)).readInstants cluster position stop now = _
  induction p generalizing stop now with
  | done a => rfl
  | fail e => rfl
  | list type options next ih =>
    simp only [Program.bind, readInstants, ih]
  | subscriptions next ih =>
    simp only [Program.bind, readInstants, ih]
  | wait milliseconds next ih =>
    simp only [Program.bind, readInstants, ih]
  | managerAvailable next ih => exact ih _ _ _
  | cancel next ih => exact ih _ _

theorem ReadsNothing.readInstants {p : Program α} (h : p.ReadsNothing) (cluster : Cluster) (position : Nat)
    (stop : Option Stop) (now : Nat) : p.readInstants cluster position stop now = [] := by
  induction p generalizing stop now with
  | done a => rfl
  | fail e => rfl
  | list type options next ih => exact h.elim
  | subscriptions next ih => exact h.elim
  | wait milliseconds next ih =>
    unfold Program.readInstants
    split
    · exact ih h _ _
    · rfl
  | managerAvailable next ih => exact ih _ (h _) _ _
  | cancel next ih => exact ih h _ _

theorem readsNothing_ofExcept (r : Except Fault α) : (ofExcept r).ReadsNothing := by cases r <;> trivial

theorem ReadsNothing.bind {p : Program α} {f : α → Program β} (hp : p.ReadsNothing)
    (hf : ∀ a, (f a).ReadsNothing) : (p >>= f).ReadsNothing := by
  change (p.bind f).ReadsNothing
  induction p with
  | done a => exact hf a
  | fail e => trivial
  | list type options next ih => exact hp.elim
  | subscriptions next ih => exact hp.elim
  | wait milliseconds next ih => exact ih hp
  | managerAvailable next ih => exact fun available => ih available (hp available)
  | cancel next ih => exact ih hp

private theorem readInstants_ofExcept_bind (r : Except Fault α) (f : α → Program β) (cluster : Cluster)
    (position : Nat) (stop : Option Stop) (now : Nat) :
    (ofExcept r >>= f).readInstants cluster position stop now =
      match r with
      | .ok a => (f a).readInstants cluster position stop now
      | .error _ => [] := by
  cases r <;> rfl

theorem readInstants_readIn_bind (context : String) (r : Except ReadFailure α) (f : α → Program β)
    (cluster : Cluster) (position : Nat) (stop : Option Stop) (now : Nat) :
    (readIn context r >>= f).readInstants cluster position stop now =
      match r with
      | .ok a => (f a).readInstants cluster position stop now
      | .error _ => [] := by
  cases r <;> rfl

theorem readInstants_singleton_bind (type : ResourceType) (f : Option Object → Program β) (cluster : Cluster)
    (position now : Nat) :
    (singleton type >>= f).readInstants cluster position none now = now ::
      match cluster.only type with
      | .ok found => (f found).readInstants cluster position none (now + cluster.latency)
      | .error _ => [] := by
  refine congrArg (now :: ·) ((readInstants_readIn_bind _ (singletonOf type (cluster.list type {})) f cluster
    position none _).trans ?_)
  unfold Cluster.only
  cases singletonOf type (cluster.list type {}) <;> rfl

end Program

open Program

namespace ComponentCheck

variable {c : ComponentCheck} (hpolicy : ∀ view finding, (c.policy view finding).ReadsNothing) (cluster : Cluster)
include hpolicy

private theorem readInstants_conclude (u : Upgrade) (o : Object) (state : ManagementState) (finding : Finding)
    (position now : Nat) :
    (c.conclude u o state finding).readInstants cluster position none now =
      if c.needsNamespace then [now] else [] := by
  unfold conclude
  cases c.needsNamespace with
  | false => exact (hpolicy _ _).readInstants _ _ _ _
  | true =>
    simp only [if_true]
    rw [readInstants_singleton_bind]
    congr 1
    cases cluster.only .initialization with
    | error e => rfl
    | ok found =>
      cases found with
      | none => rfl
      | some initialization =>
        dsimp only
        cases applicationsNamespace? initialization with
        | none => rfl
        | some ns => exact (hpolicy _ _).readInstants _ _ _ _

private theorem readInstants_inspect (u : Upgrade) (o : Object) (finding : Finding) (position now : Nat) :
    (c.inspect u o finding).readInstants cluster position none now =
      if c.needsNamespace && (c.readState o).toOption.any c.isAbout then [now] else [] := by
  unfold inspect
  rw [readInstants_ofExcept_bind]
  cases c.readState o with
  | error e => cases c.needsNamespace <;> rfl
  | ok state =>
    change (if c.isAbout state = true then _ else _ : Program Finding).readInstants _ _ _ _ =
      if c.needsNamespace && c.isAbout state then _ else _
    cases c.isAbout state with
    | false => cases c.needsNamespace <;> rfl
    | true =>
      rw [if_pos rfl, readInstants_conclude hpolicy, Bool.and_true]

/-- The check reads its singleton at once, and the second one, if it comes as far as that, right afterwards. -/
theorem readInstants_evaluate (u : Upgrade) (position now : Nat) :
    (c.evaluate u).readInstants cluster position none now =
      now :: if c.needsNamespaceOn cluster then [now + cluster.latency] else [] := by
  unfold evaluate needsNamespaceOn stateOn?
  rw [readInstants_singleton_bind]
  congr 1
  cases cluster.only c.singleton with
  | error e => cases c.needsNamespace <;> rfl
  | ok found =>
    cases found with
    | none => cases c.needsNamespace <;> rfl
    | some o => exact readInstants_inspect hpolicy _ _ _ _ _ _

end ComponentCheck

theorem WorkloadCheck.readInstants_evaluate {α : Type} [Item α] {c : WorkloadCheck α}
    (hpolicy : ∀ view finding, (c.policy view finding).ReadsNothing) (cluster : Cluster) (u : Upgrade)
    (position now : Nat) : (c.evaluate u).readInstants cluster position none now = [now] := by
  refine congrArg (now :: ·) ((readInstants_readIn_bind _ (orEmpty (cluster.list c.resource c.options)) _ cluster
    position none _).trans ?_)
  cases orEmpty (cluster.list c.resource c.options) with
  | error e => rfl
  | ok objects =>
    refine ReadsNothing.readInstants ?_ _ _ _ _
    exact (readsNothing_ofExcept _).bind fun items => (hpolicy _ _).bind fun finding => trivial

theorem OperatorCheck.readInstants_evaluate (c : OperatorCheck) (cluster : Cluster) (u : Upgrade)
    (position now : Nat) :
    (c.evaluate u).readInstants cluster position none now = if cluster.managerAvailable then [now] else [] := by
  change (if cluster.managerAvailable = true then _ else _ : Program Finding).readInstants _ _ _ _ = _
  cases cluster.managerAvailable with
  | false =>
    rw [if_neg Bool.false_ne_true, if_neg Bool.false_ne_true]
    refine ReadsNothing.readInstants ?_ _ _ _ _
    exact (readsNothing_ofExcept _).bind fun condition => trivial
  | true =>
    rw [if_pos rfl, if_pos rfl]
    refine congrArg (now :: ·)
      ((readInstants_readIn_bind _ cluster.subscriptions _ cluster position none _).trans ?_)
    cases cluster.subscriptions with
    | error e => rfl
    | ok subscriptions => exact (readsNothing_ofExcept _).readInstants _ _ _ _

namespace ProtocolCheck

def readsOn (cluster : Cluster) : ProtocolCheck → Nat
  | component c => if c.needsNamespaceOn cluster then 2 else 1
  | workload _ => 1
  | operator _ => if cluster.managerAvailable then 1 else 0

variable {p : ProtocolCheck}

/-- The reads follow upon one another, each as soon as the one before it has been answered. -/
theorem readInstants_evaluate (h : p.PolicyIs fun _ program => program.ReadsNothing) (cluster : Cluster)
    (u : Upgrade) (position now : Nat) :
    (p.toCheck.evaluate u).readInstants cluster position none now =
      (List.range (p.readsOn cluster)).map fun m => now + m * cluster.latency := by
  cases p with
  | component c =>
    refine (c.readInstants_evaluate h cluster u position now).trans ?_
    simp only [readsOn]
    cases c.needsNamespaceOn cluster <;> simp [List.range_succ]
  | workload c =>
    refine (c.readInstants_evaluate h cluster u position now).trans ?_
    simp [readsOn]
  | operator c =>
    refine (c.readInstants_evaluate cluster u position now).trans ?_
    simp only [readsOn]
    cases cluster.managerAvailable <;> simp

private theorem readInstants_attempt (h : p.PolicyIs fun _ program => program.ReadsNothing) (cluster : Cluster)
    (u : Upgrade) (position now : Nat) :
    (p.toCheck.attempt u).readInstants cluster position none now =
      (List.range (if p.gate u then p.readsOn cluster else 0)).map fun m => now + m * cluster.latency := by
  unfold Check.attempt
  rw [p.applies_toCheck]
  change ((if p.gate u = true then _ else _ : Program (Option Finding))).readInstants _ _ _ _ = _
  cases p.gate u with
  | false => rfl
  | true =>
    rw [if_pos rfl, if_pos rfl, readInstants_map]
    exact readInstants_evaluate h cluster u position now

end ProtocolCheck

namespace Inspection

variable {i : Inspection} {stop : Option Stop} {e : Evaluation} {k t : Nat}

/-- When the check at a position begins its reads in a run that is cancelled at a stop and by nothing else. -/
def readInstants (i : Inspection) (stop : Option Stop) (k : Nat) : List Nat :=
  match i.catalog.checks[k]? with
  | some c =>
    if i.settings.isSkipped c.about.id then []
    else (c.attempt i.effectiveUpgrade).readInstants i.cluster k stop (i.startUntil stop k)
  | none => []

def readsDue (i : Inspection) (p : ProtocolCheck) : Nat :=
  if i.settings.isSkipped p.about.id = true ∨ p.gate i.effectiveUpgrade = false then 0 else p.readsOn i.cluster

/-- The stop at which a run is cancelled: the first one that a check makes by itself, if there is one. -/
def cancellation (i : Inspection) (stop : Option Stop) : Option Stop :=
  (ownStop? 0 (i.evaluationsUntil stop)).or stop

private theorem evaluations_eq_until_cancellation (i : Inspection) (stop : Option Stop) :
    i.evaluations stop = i.evaluationsUntil (i.cancellation stop) := by
  unfold evaluations cancellation
  cases hown : ownStop? 0 (i.evaluationsUntil stop) with
  | none => simp only [hown, Option.none_or]
  | some own => simp only [hown, Option.some_or]

theorem readInstants_eq {c : Check} (hc : i.catalog.checks[k]? = some c) (stop : Option Stop) :
    i.readInstants stop k =
      if i.settings.isSkipped c.about.id then []
      else (c.attempt i.effectiveUpgrade).readInstants i.cluster k stop (i.startUntil stop k) := by
  rw [readInstants, hc]

theorem reads_of_getElem? (h : (i.evaluationsUntil stop)[k]? = some e) :
    e.reads = (i.readInstants stop k).length := by
  obtain ⟨c, hc, rfl⟩ := exists_of_getElem?_evaluationsUntil h
  rw [readInstants_eq hc]
  cases hs : i.settings.isSkipped c.about.id with
  | true =>
    rw [evaluate_of_skipped hs]
    rfl
  | false =>
    rw [evaluate_of_not_skipped hs, if_neg Bool.false_ne_true, length_readInstants]

theorem sum_reads_evaluationsUntil (i : Inspection) (stop : Option Stop) :
    ((i.evaluationsUntil stop).map Evaluation.reads).sum =
      ((List.range i.catalog.checks.length).map fun k => (i.readInstants stop k).length).sum := by
  rw [← i.length_evaluationsUntil stop, map_range_length fun k e he => (reads_of_getElem? he).symm]

/-- No check begins a read before it is started, nor once it finds the run cancelled. -/
theorem bounds_of_mem_readInstants (ht : t ∈ i.readInstants stop k) :
    i.startUntil stop k ≤ t ∧ Stop.isOver stop k t = false := by
  unfold readInstants at ht
  split at ht
  · split at ht
    · cases ht
    · exact ⟨Program.le_of_mem_readInstants ht, Program.isOver_of_mem_readInstants ht⟩
  · cases ht

/-- Cancelled at an instant, each check begins those reads that it begins before that instant in the run that
nothing cancels. -/
theorem readInstants_of_uncancelled (h : i.Uncancelled) (instant k : Nat) :
    i.readInstants (some (.outside instant)) k = (i.readInstants none k).filter (· < instant) := by
  cases hc : i.catalog.checks[k]? with
  | none => simp only [readInstants, hc, List.filter_nil]
  | some c =>
    rw [readInstants_eq hc, readInstants_eq hc]
    cases hs : i.settings.isSkipped c.about.id with
    | true => rfl
    | false =>
      have hk := (List.getElem?_eq_some_iff.1 hc).1
      have hstart := min_startUntil_outside h instant hk
      rw [← startUntil_none h hk] at hstart
      rw [if_neg Bool.false_ne_true, if_neg Bool.false_ne_true,
        Program.readInstants_outside (h c (List.mem_of_getElem? hc) hs)]
      -- Started at another instant than in the run that nothing cancels, the check is started too late for a read.
      by_cases hsame : i.startUntil (some (.outside instant)) k = i.startUntil none k
      · rw [hsame]
      · rw [Program.filter_readInstants_of_le (by omega), Program.filter_readInstants_of_le (by omega)]

theorem readInstants_of_protocol (h : i.Uncancelled) {ps : List ProtocolCheck} {p : ProtocolCheck}
    (hchecks : i.catalog.checks = ps.map ProtocolCheck.toCheck) (hp : ps[k]? = some p)
    (hpolicy : p.PolicyIs fun _ program => program.ReadsNothing) :
    i.readInstants none k = (List.range (i.readsDue p)).map fun m => i.startOf k + m * i.cluster.latency := by
  have hc : i.catalog.checks[k]? = some p.toCheck := by rw [hchecks, List.getElem?_map, hp, Option.map_some]
  have hstart := startUntil_none h (List.getElem?_eq_some_iff.1 hc).1
  rw [readInstants_eq hc, hstart, p.readInstants_attempt hpolicy, readsDue]
  change (if i.settings.isSkipped p.about.id = true then _ else _) = _
  cases i.settings.isSkipped p.about.id <;> cases p.gate i.effectiveUpgrade <;> rfl

/-- The reads of a run. If nothing cancels it, checks whose policies read nothing make as many reads as the
settings, their gates and the cluster leave them to make, and each begins them one after the other from its start
on. If such a run is cancelled at an instant, every check makes those of its reads that it begins before that
instant, whatever the number of workers. However a run is cancelled, the reads that are counted are those that a
check begins after its start and before it finds the run cancelled. -/
theorem reads_of_run (i : Inspection) (ps : List ProtocolCheck)
    (hchecks : i.catalog.checks = ps.map ProtocolCheck.toCheck)
    (hpolicies : ∀ p ∈ ps, p.PolicyIs fun _ program => program.ReadsNothing) :
    (i.Uncancelled →
      i.reads none = (ps.map i.readsDue).sum ∧
      (∀ k p, ps[k]? = some p →
        i.readInstants none k = (List.range (i.readsDue p)).map fun m => i.startOf k + m * i.cluster.latency) ∧
      ∀ instant,
        i.reads (some (.outside instant)) =
          ((List.range ps.length).map fun k => (i.readInstants none k).countP (· < instant)).sum ∧
        ∀ k e, (i.evaluations (some (.outside instant)))[k]? = some e →
          e.reads = (i.readInstants none k).countP (· < instant)) ∧
    ∀ stop k e, (i.evaluations stop)[k]? = some e →
      e.reads = (i.readInstants (i.cancellation stop) k).length ∧
      ∀ t ∈ i.readInstants (i.cancellation stop) k, e.start ≤ t ∧
        Stop.isOver (i.cancellation stop) k t = false := by
  have hlength : i.catalog.checks.length = ps.length := by rw [hchecks, List.length_map]
  refine ⟨fun huncancelled => ⟨?_, ?_, ?_⟩, ?_⟩
  · change ((i.evaluations none).map Evaluation.reads).sum = _
    rw [huncancelled.evaluations_eq, sum_reads_evaluationsUntil, hlength]
    rw [map_range_length fun k p hp => ?_]
    have hpolicy := hpolicies p (List.mem_of_getElem? hp)
    rw [readInstants_of_protocol huncancelled hchecks hp hpolicy, List.length_map, List.length_range]
  · exact fun k p hp => readInstants_of_protocol huncancelled hchecks hp (hpolicies p (List.mem_of_getElem? hp))
  · intro instant
    have hcount : ∀ k, (i.readInstants (some (.outside instant)) k).length =
        (i.readInstants none k).countP (· < instant) := by
      intro k
      rw [readInstants_of_uncancelled huncancelled, List.countP_eq_length_filter]
    constructor
    · change ((i.evaluations (some (.outside instant))).map Evaluation.reads).sum = _
      rw [huncancelled.evaluations_eq, sum_reads_evaluationsUntil, hlength, List.map_congr_left fun k _ => hcount k]
    · intro k e he
      rw [huncancelled.evaluations_eq] at he
      exact (reads_of_getElem? he).trans (hcount k)
  · intro stop k e he
    rw [evaluations_eq_until_cancellation] at he
    refine ⟨reads_of_getElem? he, fun t ht => ?_⟩
    rw [start_eq_of_getElem? he]
    exact bounds_of_mem_readInstants ht

def slowCluster : Inspection where
  catalog := Standard.catalog
  settings := { concurrency := 1, skip := ["dependencies.servicemesh.*"] }
  cluster := { ServingModes.clusterWith ServingModes.bothModes [ServingModes.initialized] with latency := 10 }
  upgrade := ServingModes.toVersion3

/-- Of the six reads, two of which the first check makes, three are begun before the run is cancelled. -/
theorem slowCluster_reads :
    (∀ p ∈ Standard.protocols, p.PolicyIs fun _ program => program.ReadsNothing) ∧ slowCluster.Uncancelled ∧
      slowCluster.reads none = 6 ∧ slowCluster.reads (some (.outside 25)) = 3 := by
  have hpolicies : ∀ p ∈ Standard.protocols, p.PolicyIs fun _ program => program.ReadsNothing := by
    simp only [Standard.protocols, List.forall_mem_cons, ProtocolCheck.PolicyIs]
    refine ⟨fun view finding => ?_, fun _ _ => trivial, fun _ _ => trivial, fun _ _ => trivial, trivial,
      trivial, nofun⟩
    change (ServingModes.policy view finding).ReadsNothing
    unfold ServingModes.policy
    split <;> trivial
  have huncancelled : slowCluster.Uncancelled := uncancelled_of_neverCancels neverCancels_of_mem_standard
  obtain ⟨hreads, -, hcancelled⟩ :=
    (reads_of_run slowCluster Standard.protocols Standard.checks_eq_map_protocols hpolicies).1 huncancelled
  refine ⟨hpolicies, huncancelled, ?_, ?_⟩
  · rw [hreads]
    rfl
  · rw [(hcancelled 25).1]
    rfl

end Inspection

end Preflight

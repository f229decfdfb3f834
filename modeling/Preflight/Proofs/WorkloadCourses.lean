import Preflight.Proofs.Absence
import Preflight.Proofs.Continuations
import Preflight.Proofs.ItemShapes
import Preflight.Proofs.ProtocolChecks

/-! # The courses of a workload check
An evaluation of a workload check lists, filters and hands over. It ends before its policy where the listing cannot
be read or the filter fails on an item, and the first such item decides. Otherwise the policy is handed the items
that the filter accepts, and what it leaves open about affected objects is filled in from them. -/
namespace Preflight

open Program

namespace WorkloadCheck

variable {α : Type} {c : WorkloadCheck α} {cluster : Cluster} {u : Upgrade}

theorem keep_of_accepts {filter : α → Except Fault Bool} {p : α → Bool} {items : List α}
    (h : ∀ item ∈ items, filter item = .ok (p item)) : keep filter items = .ok (items.filter p) := by
  induction items with
  | nil => rfl
  | cons item items ih =>
    have hitem : filter item = .ok (p item) := h item List.mem_cons_self
    have hitems := ih fun i hi => h i (List.mem_cons_of_mem _ hi)
    rw [keep, hitem, hitems, List.filter_cons]
    cases p item <;> rfl

theorem keep_of_failure {filter : α → Except Fault Bool} {before : List α} {item : α} {e : Fault}
    (hbefore : ∀ i ∈ before, ∃ accepted, filter i = .ok accepted) (hitem : filter item = .error e)
    (behind : List α) :
    keep filter (before ++ item :: behind) = .error e := by
  induction before with
  | nil =>
    rw [List.nil_append, keep, hitem]
    rfl
  | cons first before ih =>
    obtain ⟨accepted, hfirst⟩ := hbefore first List.mem_cons_self
    rw [List.cons_append, keep, hfirst, ih fun i hi => hbefore i (List.mem_cons_of_mem _ hi)]
    rfl

/-- A filter accepts or drops every item of a list, or fails on one of them before which it did so. -/
theorem exists_accepts_or_failure (filter : α → Except Fault Bool) (items : List α) :
    (∃ p : α → Bool, ∀ item ∈ items, filter item = .ok (p item)) ∨
      ∃ before item behind e, items = before ++ item :: behind ∧
        (∀ i ∈ before, ∃ accepted, filter i = .ok accepted) ∧ filter item = .error e := by
  induction items with
  | nil => exact .inl ⟨fun _ => true, nofun⟩
  | cons item items ih =>
    cases hitem : filter item with
    | error e => exact .inr ⟨[], item, items, e, rfl, nofun, hitem⟩
    | ok accepted =>
      rcases ih with ⟨p, hp⟩ | ⟨before, failing, behind, e, rfl, hbefore, hfailing⟩
      · refine .inl ⟨fun i => (filter i).toOption.getD false, fun i hi => ?_⟩
        rcases List.mem_cons.1 hi with rfl | hi
        · simp only [hitem, Except.toOption, Option.getD_some]
        · simp only [hp i hi, Except.toOption, Option.getD_some]
      · refine .inr ⟨item :: before, failing, behind, e, rfl, fun i hi => ?_, hfailing⟩
        rcases List.mem_cons.1 hi with rfl | hi
        · exact ⟨accepted, hitem⟩
        · exact hbefore i hi

inductive Turn (α : Type) where
  | fails (e : Fault)
  | policy (items : List α)

variable [Item α]

/-- The items that are listed, in the order of the cluster. A type that is not installed has none. -/
inductive Lists (c : WorkloadCheck α) (cluster : Cluster) : List α → Prop
  | served (hlist : cluster.list c.resource c.options =
      .ok ((cluster.inventory.objectsOf c.resource).filter c.options.keeps)) :
    Lists c cluster
      (((cluster.inventory.objectsOf c.resource).filter c.options.keeps).map (Item.ofObject c.resource))
  | uninstalled {e : ReadFailure} (hlist : cluster.list c.resource c.options = .error e)
    (he : e.isTypeNotInstalled = true) : Lists c cluster []

/-- The turn to which the cluster and the filter lead an evaluation. -/
inductive Course (c : WorkloadCheck α) (cluster : Cluster) : Turn α → Prop
  | unread {e : ReadFailure} (hlist : cluster.list c.resource c.options = .error e)
    (he : e.isTypeNotInstalled = false) :
    Course c cluster (.fails (.read ("listing " ++ c.resource.text) e))
  | refused {before : List α} {item : α} {behind : List α} {e : Fault}
    (hlists : c.Lists cluster (before ++ item :: behind))
    (hbefore : ∀ i ∈ before, ∃ accepted, c.filter i = .ok accepted) (hitem : c.filter item = .error e) :
    Course c cluster (.fails (.filter c.resource.text e))
  | kept {items : List α} {p : α → Bool} (hlists : c.Lists cluster items)
    (haccepts : ∀ item ∈ items, c.filter item = .ok (p item)) : Course c cluster (.policy (items.filter p))

def turnOn (c : WorkloadCheck α) (cluster : Cluster) : Turn α :=
  match orEmpty (cluster.list c.resource c.options) with
  | .error e => .fails (.read ("listing " ++ c.resource.text) e)
  | .ok objects =>
    match keep c.filter (objects.map (Item.ofObject c.resource)) with
    | .error e => .fails (.filter c.resource.text e)
    | .ok items => .policy items

theorem lists_iff {items : List α} :
    c.Lists cluster items ↔
      ∃ objects, orEmpty (cluster.list c.resource c.options) = .ok objects ∧
        items = objects.map (Item.ofObject c.resource) := by
  constructor
  · intro h
    cases h with
    | served hlist => exact ⟨_, orEmpty_eq_ok_iff.2 (.inl hlist), rfl⟩
    | uninstalled hlist he => exact ⟨[], orEmpty_eq_ok_iff.2 (.inr ⟨rfl, _, hlist, he⟩), rfl⟩
  · rintro ⟨objects, hobjects, rfl⟩
    rcases orEmpty_eq_ok_iff.1 hobjects with hlist | ⟨rfl, e, hlist, he⟩
    · obtain rfl := Cluster.eq_filter_of_list hlist
      exact .served hlist
    · exact .uninstalled hlist he

theorem course_iff {turn : Turn α} : c.Course cluster turn ↔ c.turnOn cluster = turn := by
  unfold turnOn
  constructor
  · intro h
    cases h with
    | unread hlist he => rw [orEmpty_eq_error_iff.2 ⟨hlist, he⟩]
    | refused hlists hbefore hitem =>
      obtain ⟨objects, hobjects, hitems⟩ := lists_iff.1 hlists
      simp only [hobjects, ← hitems, keep_of_failure hbefore hitem]
    | kept hlists haccepts =>
      obtain ⟨objects, hobjects, rfl⟩ := lists_iff.1 hlists
      simp only [hobjects, keep_of_accepts haccepts]
  · rintro rfl
    cases hobjects : orEmpty (cluster.list c.resource c.options) with
    | error e =>
      obtain ⟨hlist, he⟩ := orEmpty_eq_error_iff.1 hobjects
      exact .unread hlist he
    | ok objects =>
      have hlists : c.Lists cluster (objects.map (Item.ofObject c.resource)) := lists_iff.2 ⟨objects, hobjects, rfl⟩
      dsimp only
      rcases exists_accepts_or_failure c.filter (objects.map (Item.ofObject c.resource)) with
        ⟨p, hp⟩ | ⟨before, item, behind, e, hitems, hbefore, hitem⟩
      · rw [keep_of_accepts hp]
        exact .kept hlists hp
      · rw [hitems] at hlists ⊢
        rw [keep_of_failure hbefore hitem]
        exact .refused hlists hbefore hitem

def Turn.program (c : WorkloadCheck α) (u : Upgrade) : Turn α → Program Finding
  | fails e => .fail e
  | policy items => affect c.resource.typeMeta items <$> c.policy ⟨items, c.resource, u⟩ (c.countedFinding u items)

theorem run_eq_turnOn (c : WorkloadCheck α) (cluster : Cluster) (u : Upgrade) (position now : Nat) :
    (c.evaluate u).run cluster position none now =
      (((c.turnOn cluster).program c u).run cluster position none (now + cluster.latency)).after 1 := by
  rw [evaluate_eq, run_listing_bind]
  unfold turnOn
  cases orEmpty (cluster.list c.resource c.options) with
  | error e => rfl
  | ok objects =>
    change ((c.evaluateOn u objects).run cluster position none (now + cluster.latency)).after 1 = _
    unfold evaluateOn
    dsimp only
    cases keep c.filter (objects.map (Item.ofObject c.resource)) with
    | error e => rfl
    | ok items => rfl

/-- How a finding comes about from what the policy has made of some items. -/
structure Completes (c : WorkloadCheck α) (items : List α) (made f : Finding) : Prop where
  count : f.annotationOf Annotation.workloadCount = some (toString items.length)
  /-- Affected objects that the policy has set, be they none at all, stay as they are. -/
  set : ∀ objects, made.affected = some objects → f.affected = some objects
  unset : made.affected = none → items = [] → f.affected = none
  filled : made.affected = none → items ≠ [] →
    f.affected = some (items.map fun item =>
      { type := ⟨c.resource.apiVersion, c.resource.kind⟩, namespaceName := Item.namespaceName item
        name := Item.name item, annotations := Dictionary.empty })
  /-- Nothing else is added to the finding. -/
  rest : { f with affected := made.affected } = made

private theorem completes_affect {items : List α} {made : Finding}
    (hcount : made.annotationOf Annotation.workloadCount = some (toString items.length)) :
    c.Completes items made (affect c.resource.typeMeta items made) := by
  unfold affect
  by_cases hopen : made.affected.isNone ∧ items ≠ []
  · rw [if_pos hopen]
    have hnone : made.affected = none := Option.isNone_iff_eq_none.1 hopen.1
    refine ⟨hcount, ?_, ?_, ?_, rfl⟩
    · intro objects hset
      rw [hnone] at hset
      cases hset
    · intro _ hempty
      exact absurd hempty hopen.2
    · intro _ _
      simp only [Finding.setAffected, List.map_map]
      rfl
  · rw [if_neg hopen]
    refine ⟨hcount, fun _ h => h, fun h _ => h, ?_, rfl⟩
    intro hnone hitems
    exact absurd ⟨Option.isNone_iff_eq_none.2 hnone, hitems⟩ hopen

/-- In a run that nothing cancels from outside an evaluation takes exactly one course. Where that ends in a fault,
the run is the listing and the fault. Otherwise the run is that of the policy on the items that were kept, after the
listing, and its finding is completed from these items if the policy leaves their number alone. -/
theorem evaluation_of_kept_items (c : WorkloadCheck α)
    (hpolicy : ∀ view finding, (c.policy view finding).Ensures fun f =>
      f.annotationOf Annotation.workloadCount = finding.annotationOf Annotation.workloadCount)
    (cluster : Cluster) (u : Upgrade) (position now : Nat) :
    ∃ turn, c.Course cluster turn ∧ (∀ turn', c.Course cluster turn' → turn' = turn) ∧
      match turn with
      | .fails e =>
        (c.evaluate u).run cluster position none now =
          { result := .error e, finish := now + cluster.latency, reads := 1 }
      | .policy items =>
        let ending := (c.policy ⟨items, c.resource, u⟩ (c.countedFinding u items)).run cluster position none
          (now + cluster.latency)
        ∃ result, (c.evaluate u).run cluster position none now =
            { result, finish := ending.finish, reads := ending.reads + 1, cancelledAt := ending.cancelledAt } ∧
          (∀ e, result = .error e ↔ ending.result = .error e) ∧
          ∀ made, ending.result = .ok made → ∃ f, result = .ok f ∧ c.Completes items made f := by
  refine ⟨c.turnOn cluster, course_iff.2 rfl, fun turn' h => (course_iff.1 h).symm, ?_⟩
  have hrun := run_eq_turnOn c cluster u position now
  cases hturn : c.turnOn cluster with
  | fails e =>
    rw [hturn] at hrun
    exact hrun
  | policy items =>
    rw [hturn, Turn.program, run_map] at hrun
    refine ⟨_, hrun, fun e => Ending.map_result_eq_error_iff, ?_⟩
    · intro made hmade
      have hcounted : (c.countedFinding u items).annotationOf Annotation.workloadCount =
          some (toString items.length) := by
        unfold countedFinding
        rw [Finding.annotationOf_annotate, if_pos rfl]
      have hcount := (hpolicy _ _).of_answer (answer_of_run hmade)
      exact ⟨affect c.resource.typeMeta items made, Ending.map_result_of_ok hmade,
        completes_affect (hcount.trans hcounted)⟩

/-- Of three notebooks one is of the team, and it is affected. -/
theorem ofTeam_evaluation :
    (∀ view finding, (ofTeam.policy view finding).Ensures fun f =>
      f.annotationOf Annotation.workloadCount = finding.annotationOf Annotation.workloadCount) ∧
      ∃ items f, ofTeam.Course teamNotebooks (.policy items) ∧ items.map Item.name = ["lab"] ∧
        ((ofTeam.evaluate {}).run teamNotebooks 0 none 0).result = .ok f ∧
        f.annotationOf Annotation.workloadCount = some "1" ∧
        f.affectedObjects.map AffectedObject.text = ["Notebook/study/lab"] := by
  have hpolicy : ∀ view finding, (ofTeam.policy view finding).Ensures fun f =>
      f.annotationOf Annotation.workloadCount = finding.annotationOf Annotation.workloadCount :=
    fun _ _ => rfl
  obtain ⟨turn, hcourse, -, hturn⟩ := evaluation_of_kept_items ofTeam hpolicy teamNotebooks {} 0 0
  obtain rfl := course_iff.1 hcourse
  obtain ⟨result, hrun, -, hmade⟩ := hturn
  obtain ⟨f, hf, hcompletes⟩ := hmade _ rfl
  refine ⟨hpolicy, _, f, hcourse, rfl, ?_, hcompletes.count, ?_⟩
  · rw [hrun, hf]
  · have hfilled := hcompletes.filled rfl nofun
    rw [Finding.affectedObjects, hfilled]
    rfl

end WorkloadCheck

end Preflight

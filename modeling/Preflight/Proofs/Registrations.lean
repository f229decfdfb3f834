import Mathlib.Data.List.Induction
import Preflight.Check.Registry
import Preflight.Proofs.ObjectUpdates
import Preflight.Standard.Catalog

/-! # Checks that are registered
A registry takes a check just if no check with its id was registered before, and a check that it refuses leaves it
as it was. So after any registrations it holds the first check of each id, in the order in which they came, and the
ids that it has noted are those of its checks. -/
namespace Preflight

/-- A list keeps an element added at its end if it is the first of its kind. -/
private theorem eraseDups_append_singleton {α : Type} [DecidableEq α] (l : List α) (a : α) :
    (l ++ [a]).eraseDups = if a ∈ l then l.eraseDups else l.eraseDups ++ [a] := by
  rw [List.eraseDups_append, List.removeAll]
  split
  · next h => rw [List.filter_cons_of_neg (by simpa using h), List.filter_nil, List.eraseDups_nil, List.append_nil]
  · next h => rw [List.filter_cons_of_pos (by simpa using h), List.filter_nil, List.eraseDups_cons, List.filter_nil,
      List.eraseDups_nil]

namespace Catalog

private theorem isSome_find?_iff (c : Catalog) (id : String) : (c.find? id).isSome = true ↔ id ∈ c.ids := by
  simp only [find?, ids, List.find?_isSome, decide_eq_true_eq, List.mem_map]

private theorem mem_ofGroup_iff (c : Catalog) {group : CheckGroup} {check : Check} :
    check ∈ c.ofGroup group ↔ check ∈ c.checks ∧ check.about.group = group := by
  rw [ofGroup, List.mem_filter, decide_eq_true_eq]

/-- The groups share out the checks among them. -/
theorem perm_flatMap_ofGroup (c : Catalog) : (CheckGroup.all.flatMap c.ofGroup).Perm c.checks := by
  simp only [CheckGroup.all, List.flatMap_cons, List.flatMap_nil, List.append_nil, ofGroup]
  induction c.checks with
  | nil => exact .refl _
  | cons check checks ih =>
    cases h : check.about.group with
    | component =>
      simp only [List.filter_cons, h, decide_true, reduceCtorEq, decide_false, Bool.false_eq_true,
        if_true, if_false]
      exact ih.cons check
    | workload =>
      simp only [List.filter_cons, h, decide_true, reduceCtorEq, decide_false, Bool.false_eq_true,
        if_true, if_false]
      exact List.perm_middle.trans (ih.cons check)
    | dependency =>
      simp only [List.filter_cons, h, decide_true, reduceCtorEq, decide_false, Bool.false_eq_true,
        if_true, if_false]
      rw [← List.append_assoc] at ih ⊢
      exact List.perm_middle.trans (ih.cons check)

end Catalog

namespace Registry

variable {r : Registry} {check : Check}

theorem register_of_mem (h : check.about.id ∈ r.ids) :
    r.register check = (.error (.duplicate check.about.id), r) := by
  have htaken : (r.taken.find? check.about.id).isSome = true := (r.taken_iff _).2 h
  obtain ⟨c, taken, taken_iff⟩ := r
  simp only [register, dif_pos htaken, Dictionary.insert_eq_self htaken]

theorem register_of_not_mem (h : check.about.id ∉ r.ids) :
    (r.register check).1 = .ok () ∧ (r.register check).2.checks = r.checks ++ [check] := by
  have hfree : ¬ (r.taken.find? check.about.id).isSome = true := mt (r.taken_iff _).1 h
  simp only [register, dif_neg hfree, and_self]

private theorem register_fst (r : Registry) (check : Check) :
    (r.register check).1 = if check.about.id ∈ r.ids then .error (.duplicate check.about.id) else .ok () := by
  split
  · next h => rw [register_of_mem h]
  · next h => exact (register_of_not_mem h).1

/-- The registry decides by the ids that it has noted as the catalog decides by its checks. -/
theorem toCatalog_register (r : Registry) (check : Check) :
    (r.register check).1.map (fun _ => (r.register check).2.toCatalog) = r.toCatalog.register check := by
  by_cases h : check.about.id ∈ r.ids
  · rw [register_of_mem h, Catalog.register, dif_pos h]
    rfl
  · obtain ⟨hok, hchecks⟩ := register_of_not_mem h
    rw [hok, Catalog.register, dif_neg h]
    refine congrArg Except.ok ?_
    generalize (r.register check).2.toCatalog = c at hchecks
    cases c
    cases hchecks
    rfl

theorem registerAll_append_singleton (r : Registry) (calls : List Check) (call : Check) :
    r.registerAll (calls ++ [call]) = ((r.registerAll calls).register call).2 := by
  simp only [registerAll, List.foldl_append, List.foldl_cons, List.foldl_nil]

/-- The ids stand in the order in which they were first registered. -/
theorem ids_registerAll (calls : List Check) :
    (empty.registerAll calls).ids = (calls.map (·.about.id)).eraseDups := by
  induction calls using List.reverseRecOn with
  | nil => rfl
  | append_singleton calls call ih =>
    have hknown : call.about.id ∈ (empty.registerAll calls).ids ↔ call.about.id ∈ calls.map (·.about.id) := by
      rw [ih, List.mem_eraseDups]
    rw [registerAll_append_singleton, List.map_append, List.map_singleton, eraseDups_append_singleton, ← ih]
    split
    · next h => rw [register_of_mem (hknown.2 h)]
    · next h =>
      rw [Catalog.ids, (register_of_not_mem (mt hknown.1 h)).2, List.map_append]
      rfl

theorem mem_ids_registerAll_iff {calls : List Check} {id : String} :
    id ∈ (empty.registerAll calls).ids ↔ id ∈ calls.map (·.about.id) := by
  rw [ids_registerAll, List.mem_eraseDups]

/-- The check under an id is the first one that was registered with it. -/
theorem find?_registerAll (calls : List Check) (id : String) :
    (empty.registerAll calls).find? id = calls.find? (·.about.id = id) := by
  induction calls using List.reverseRecOn with
  | nil => rfl
  | append_singleton calls call ih =>
    rw [registerAll_append_singleton, List.find?_append, ← ih]
    by_cases h : call.about.id ∈ (empty.registerAll calls).ids
    · rw [register_of_mem h]
      by_cases hid : call.about.id = id
      · obtain ⟨first, hfirst⟩ := Option.isSome_iff_exists.1 ((Catalog.isSome_find?_iff _ _).2 (hid ▸ h))
        rw [hfirst, Option.some_or]
      · rw [List.find?_cons_of_neg (by simpa using hid), List.find?_nil, Option.or_none]
    · rw [Catalog.find?, (register_of_not_mem h).2, List.find?_append]
      rfl

theorem checks_registerAll {calls : List Check} (h : (calls.map (·.about.id)).Nodup) :
    (empty.registerAll calls).checks = calls := by
  induction calls using List.reverseRecOn with
  | nil => rfl
  | append_singleton calls call ih =>
    rw [List.map_append, List.nodup_append] at h
    obtain ⟨hcalls, -, hdistinct⟩ := h
    have hfree : call.about.id ∉ (empty.registerAll calls).ids := by
      rw [mem_ids_registerAll_iff]
      exact fun hmem => hdistinct _ hmem _ (List.mem_singleton_self _) rfl
    rw [registerAll_append_singleton, (register_of_not_mem hfree).2, ih hcalls]

/-- The standard checks are all taken, so the standard catalog is what comes of registering them. -/
theorem checks_registerAll_standard : (empty.registerAll Standard.checks).checks = Standard.catalog.checks :=
  checks_registerAll Standard.catalog.distinct

/-- Of the checks that are registered one after the other, whatever their ids and groups, a registry refuses those
with the id of an earlier one, and stays as it was. So it holds the first check of each id, in the order in which
they came; the ids that it has noted are those of its checks, and each of its checks is in one of the groups,
once. -/
theorem holds_first_registrations (earlier : List Check) (call : Check) :
    let r := empty.registerAll earlier
    (r.register call).1 =
        (if call.about.id ∈ earlier.map (·.about.id) then .error (.duplicate call.about.id) else .ok ()) ∧
      (call.about.id ∈ earlier.map (·.about.id) → (r.register call).2 = r) ∧
      r.ids = (earlier.map (·.about.id)).eraseDups ∧
      (∀ id, r.find? id = earlier.find? (·.about.id = id)) ∧
      (∀ id, (r.taken.find? id).isSome = true ↔ id ∈ r.ids) ∧
      (∀ group, (r.ofGroup group).Sublist r.checks ∧
        ∀ check, check ∈ r.ofGroup group ↔ check ∈ r.checks ∧ check.about.group = group) ∧
      (CheckGroup.all.flatMap r.ofGroup).Perm r.checks ∧ r.ids.Nodup := by
  intro r
  have hknown : call.about.id ∈ r.ids ↔ call.about.id ∈ earlier.map (·.about.id) := mem_ids_registerAll_iff
  refine ⟨?_, fun h => ?_, ids_registerAll earlier, find?_registerAll earlier, r.taken_iff,
    fun group => ⟨List.filter_sublist, fun check => r.mem_ofGroup_iff⟩, r.perm_flatMap_ofGroup, r.distinct⟩
  · simp only [register_fst, hknown]
  · rw [register_of_mem (hknown.2 h)]

def mislabelled : Check :=
  { Standard.notebooks.toCheck with about := { Standard.notebooks.about with id := "dependencies.servicemesh.v2" } }

/-- It is refused behind the check of the service mesh, also when it was refused before, and changes nothing. -/
theorem mislabelled_refused :
    let earlier := [Standard.serviceMesh.toCheck, mislabelled, Standard.notebooks.toCheck]
    mislabelled.about.id ∈ earlier.map (·.about.id) ∧
      ((empty.registerAll earlier).register mislabelled).1 = .error (.duplicate "dependencies.servicemesh.v2") ∧
      ((empty.registerAll earlier).register mislabelled).2 = empty.registerAll earlier ∧
      (empty.registerAll earlier).ids = ["dependencies.servicemesh.v2", "workloads.notebook.inventory"] ∧
      (empty.registerAll earlier).find? "dependencies.servicemesh.v2" = some Standard.serviceMesh.toCheck := by
  intro earlier
  have hmem : mislabelled.about.id ∈ earlier.map (·.about.id) := by decide
  obtain ⟨hrefused, hsame, hids, hfind, -⟩ := holds_first_registrations earlier mislabelled
  exact ⟨hmem, hrefused.trans (if_pos hmem), hsame hmem, hids.trans (by decide), hfind _⟩

end Registry

end Preflight

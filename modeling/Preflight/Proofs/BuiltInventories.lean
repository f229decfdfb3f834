import Mathlib.Data.List.Induction
import Preflight.Cluster.Session
import Preflight.Proofs.Scope

/-! # Inventories that are built up
An inventory is built up by adding objects, installing types and setting failures, of whatever types and in whatever
order. What a read of a type sees of it are three things: the objects of the type, whether the type is served, and
the failure in its way. Each of them depends on the steps for that type only, so a read does not notice in which
order the steps for different types came. -/
namespace Preflight

namespace Inventory

inductive Step
  | object (type : ResourceType) (object : Object)
  | installed (type : ResourceType)
  | failure (type : ResourceType) (failure : ReadFailure)

namespace Step

def type : Step → ResourceType
  | object type _ | installed type | failure type _ => type

def apply (i : Inventory) : Step → Inventory
  | object type o => i.addObject type o
  | installed type => i.install type
  | failure type e => i.addFailure type e

def object? (type : ResourceType) : Step → Option Object
  | object type' o => if type' = type then some o else none
  | installed _ | failure .. => none

def failure? (type : ResourceType) : Step → Option ReadFailure
  | failure type' e => if type' = type then some e else none
  | object .. | installed _ => none

/-- The step installs a type, for its own sake or for that of an object. -/
def installs (type : ResourceType) : Step → Bool
  | object type' _ | installed type' => type' = type
  | failure .. => false

variable {step : Step} {type : ResourceType}

theorem object?_of_ne (h : step.type ≠ type) : step.object? type = none := by
  cases step with
  | object type' o => exact if_neg h
  | installed type' => rfl
  | failure type' e => rfl

theorem failure?_of_ne (h : step.type ≠ type) : step.failure? type = none := by
  cases step with
  | object type' o => rfl
  | installed type' => rfl
  | failure type' e => exact if_neg h

end Step

def built (subscriptions : List Subscription) (steps : List Step) : Inventory :=
  steps.foldl Step.apply { subscriptions }

variable {type : ResourceType} {subscriptions : List Subscription}

theorem objectsOf_apply (i : Inventory) (step : Step) :
    (step.apply i).objectsOf type = i.objectsOf type ++ (step.object? type).toList := by
  cases step with
  | object type' o =>
    simp only [Step.apply, addObject, objectsOf, Step.object?, List.filter_append, List.map_append]
    by_cases h : type' = type <;> simp [h]
  | installed type' => exact (List.append_nil _).symm
  | failure type' e => exact (List.append_nil _).symm

theorem failure?_apply (i : Inventory) (step : Step) :
    (step.apply i).failure? type = (step.failure? type).or (i.failure? type) := by
  cases step with
  | object type' o => rfl
  | installed type' => rfl
  | failure type' e =>
    simp only [Step.apply, addFailure, Inventory.failure?, Step.failure?, List.find?_cons]
    by_cases h : type' = type <;> simp [h]

theorem serves_install (i : Inventory) (type' : ResourceType) :
    (i.install type').serves type = (i.serves type || decide (type' = type)) := by
  have hcomm : (type == type') = decide (type' = type) := by rw [Bool.beq_eq_decide_eq, decide_eq_decide, eq_comm]
  rw [serves, serves, install, List.contains_cons, hcomm, Bool.or_assoc, Bool.or_comm (decide _)]

theorem serves_apply (i : Inventory) (step : Step) :
    (step.apply i).serves type = (i.serves type || step.installs type) := by
  cases step with
  | object type' o => exact serves_install i type'
  | installed type' => exact serves_install i type'
  | failure type' e => exact (Bool.or_false _).symm

theorem subscriptions_apply (i : Inventory) (step : Step) : (step.apply i).subscriptions = i.subscriptions := by
  cases step <;> rfl

theorem built_append_singleton (steps : List Step) (step : Step) :
    built subscriptions (steps ++ [step]) = step.apply (built subscriptions steps) := by
  simp only [built, List.foldl_append, List.foldl_cons, List.foldl_nil]

private theorem objectsOf_built (steps : List Step) :
    (built subscriptions steps).objectsOf type = steps.filterMap (Step.object? type) := by
  induction steps using List.reverseRecOn with
  | nil => rfl
  | append_singleton steps step ih =>
    rw [built_append_singleton, objectsOf_apply, ih, List.filterMap_append]
    cases h : step.object? type <;> simp [h]

theorem failure?_built (steps : List Step) :
    (built subscriptions steps).failure? type = (steps.filterMap (Step.failure? type)).getLast? := by
  induction steps using List.reverseRecOn with
  | nil => rfl
  | append_singleton steps step ih =>
    rw [built_append_singleton, failure?_apply, ih, List.filterMap_append]
    cases h : step.failure? type <;> simp [h]

theorem serves_built (steps : List Step) :
    (built subscriptions steps).serves type = (type.isCore || steps.any (Step.installs type)) := by
  induction steps using List.reverseRecOn with
  | nil => rfl
  | append_singleton steps step ih =>
    rw [built_append_singleton, serves_apply, ih, List.any_append, Bool.or_assoc]
    simp

/-- Two inventories look the same to every read. -/
structure Alike (i j : Inventory) : Prop where
  objects : ∀ type, i.objectsOf type = j.objectsOf type
  serves : ∀ type, i.serves type = j.serves type
  failure : ∀ type, i.failure? type = j.failure? type
  subscriptions : i.subscriptions = j.subscriptions

variable {i j : Inventory}

theorem Alike.list_eq (h : i.Alike j) (type : ResourceType) (options : ListOptions) :
    i.list type options = j.list type options :=
  have agrees : Cluster.AgreesOn { inventory := i } { inventory := j } type :=
    ⟨h.objects _, h.serves _, h.failure _⟩
  agrees.list_eq options

theorem Alike.apply (h : i.Alike j) (step : Step) : (step.apply i).Alike (step.apply j) where
  objects type := by rw [objectsOf_apply, objectsOf_apply, h.objects]
  serves type := by rw [serves_apply, serves_apply, h.serves]
  failure type := by rw [failure?_apply, failure?_apply, h.failure]
  subscriptions := by rw [subscriptions_apply, subscriptions_apply, h.subscriptions]

private theorem Alike.foldl_apply (h : i.Alike j) (steps : List Step) :
    (steps.foldl Step.apply i).Alike (steps.foldl Step.apply j) := by
  induction steps generalizing i j with
  | nil => exact h
  | cons step steps ih => exact ih (h.apply step)

/-- Of two steps for different types at most one adds to a given type, so it does not matter which comes first. -/
theorem alike_apply_apply {a b : Step} (h : a.type ≠ b.type) (i : Inventory) :
    (a.apply (b.apply i)).Alike (b.apply (a.apply i)) where
  objects type := by
    simp only [objectsOf_apply]
    rcases h.ne_or_ne type with ha | hb
    · rw [Step.object?_of_ne ha]
      simp
    · rw [Step.object?_of_ne hb]
      simp
  serves type := by
    simp only [serves_apply, Bool.or_assoc, Bool.or_comm (a.installs type)]
  failure type := by
    simp only [failure?_apply]
    rcases h.ne_or_ne type with ha | hb
    · rw [Step.failure?_of_ne ha]
      simp
    · rw [Step.failure?_of_ne hb]
      simp
  subscriptions := by simp only [subscriptions_apply]

/-- Where two steps for different types follow each other they can change places. -/
theorem built_alike_swap {a b : Step} (h : a.type ≠ b.type) (before after : List Step) :
    (built subscriptions (before ++ b :: a :: after)).Alike (built subscriptions (before ++ a :: b :: after)) := by
  simp only [built, List.foldl_append, List.foldl_cons]
  exact (alike_apply_apply h _).foldl_apply after

private theorem list_built_of_failure {steps : List Step} {e : ReadFailure}
    (h : (steps.filterMap (Step.failure? type)).getLast? = some e) (options : ListOptions) :
    (built subscriptions steps).list type options = .error e := by
  rw [Inventory.list, failure?_built, h]

theorem list_built_of_uninstalled {steps : List Step} (h : steps.filterMap (Step.failure? type) = [])
    (hcore : type.isCore = false) (hinstalled : ∀ step ∈ steps, step.installs type = false)
    (options : ListOptions) :
    (built subscriptions steps).list type options = .error (.typeNotInstalled type.text) := by
  have hserves : (built subscriptions steps).serves type = false := by
    rw [serves_built, hcore, Bool.false_or, List.any_eq_false]
    exact fun step hstep => ne_true_of_eq_false (hinstalled step hstep)
  rw [Inventory.list, failure?_built, h]
  exact if_neg (ne_true_of_eq_false hserves)

theorem list_built_of_installed {steps : List Step} (h : steps.filterMap (Step.failure? type) = [])
    (hinstalled : type.isCore = true ∨ ∃ step ∈ steps, step.installs type = true) (options : ListOptions) :
    (built subscriptions steps).list type options =
      .ok ((steps.filterMap (Step.object? type)).filter options.keeps) := by
  have hserves : (built subscriptions steps).serves type = true := by
    rwa [serves_built, Bool.or_eq_true, List.any_eq_true]
  rw [Inventory.list, failure?_built, h, ← objectsOf_built]
  exact if_pos hserves

/-- An object that was added was installed along with it. -/
theorem filterMap_object?_of_uninstalled {steps : List Step} (h : ∀ step ∈ steps, step.installs type = false) :
    steps.filterMap (Step.object? type) = [] := by
  refine List.filterMap_eq_nil_iff.2 fun step hstep => ?_
  cases step with
  | object type' o => exact if_neg (of_decide_eq_false (h _ hstep))
  | installed type' => rfl
  | failure type' e => rfl

/-- To those to whom a type that is not installed is one without objects, the objects are those that were added. -/
theorem orEmpty_list_built {steps : List Step} (h : steps.filterMap (Step.failure? type) = []) :
    orEmpty ((built subscriptions steps).list type {}) = .ok (steps.filterMap (Step.object? type)) := by
  by_cases hinstalled : type.isCore = true ∨ ∃ step ∈ steps, step.installs type = true
  · rw [list_built_of_installed h hinstalled]
    exact congrArg Except.ok (List.filter_eq_self.2 fun _ _ => rfl)
  · -- No step installed the type, so none added an object to it either.
    have huninstalled (step : Step) (hstep : step ∈ steps) : step.installs type = false :=
      eq_false_of_ne_true fun hinstalls => hinstalled (.inr ⟨step, hstep, hinstalls⟩)
    have hcore : type.isCore = false := eq_false_of_ne_true fun hcore => hinstalled (.inl hcore)
    rw [list_built_of_uninstalled h hcore huninstalled, filterMap_object?_of_uninstalled huninstalled]
    rfl

end Inventory

private theorem ListOptions.keeps_iff {α : Type} [Item α] (options : ListOptions) (item : α) :
    options.keeps item = true ↔
      (∀ ns, options.namespaceName = some ns → Item.namespaceName item = some ns) ∧
      ∀ selector, options.selector = some selector → Selector.selects selector item = true := by
  obtain ⟨namespaceName, selector⟩ := options
  cases namespaceName <;> cases selector <;> simp [keeps]

namespace Session

/-- Whether the objects of a type are listed or one of them is asked for, the failure is the answer. -/
def Fails (s : Session) (user : User) (type : ResourceType) (e : ReadFailure) : Prop :=
  (∀ options, s.answer user (.list type options) = .failed e ∧
      s.answer user (.listPartial type options) = .failed e) ∧
  ∀ name namespaceName, s.answer user (.get type name namespaceName) = .failed e

theorem fails_of_list {s : Session} {type : ResourceType} {e : ReadFailure}
    (h : ∀ options, s.inventory.list type options = .error e) (user : User) : s.Fails user type e := by
  refine ⟨fun options => ⟨?_, ?_⟩, fun name namespaceName => ?_⟩
  · rw [answer, h, replyOf]
  · rw [answer, h, replyOf]
  · rw [answer, Inventory.get, h]
    rfl

theorem answer_of_alike {i j : Inventory} (h : i.Alike j) (s : Session) (user : User) (r : Request) :
    { s with inventory := i }.answer user r = { s with inventory := j }.answer user r := by
  cases r with
  | list type options => simp only [answer, h.list_eq]
  | listPartial type options => simp only [answer, h.list_eq]
  | listOrEmpty type options => simp only [answer, h.list_eq]
  | listOrEmptyPartial type options => simp only [answer, h.list_eq]
  | get type name namespaceName => simp only [answer, Inventory.get, h.list_eq]
  | getSingleton type => simp only [answer, h.list_eq]
  | listSubscriptions => exact congrArg (replyOf .subscriptions) (Cluster.AgreesOnOperators.subscriptions_eq
      ⟨rfl, h.subscriptions, rfl⟩)
  | isManagerAvailable | countReads => rfl
  | install _ | addObject _ _ | addSubscription _ | addFailure _ _ | clear | loseManager | setLatency _ => rfl

open Inventory in
/-- However an inventory was built up, its reads are those of a list: of the objects that were added for the type,
in that order. The last failure that was set for the type comes before everything else, and then the question
whether the type is served. -/
theorem reads_of_built (s : Session) (steps : List Step) (user : User) (type : ResourceType) :
    let reader (steps : List Step) : Session := { s with inventory := built s.inventory.subscriptions steps }
    let added := steps.filterMap (Step.object? type)
    let failures := steps.filterMap (Step.failure? type)
    (∀ e, failures.getLast? = some e → (reader steps).Fails user type e) ∧
    (failures = [] → type.isCore = false → (∀ step ∈ steps, step.installs type = false) →
      (reader steps).Fails user type (.typeNotInstalled type.text)) ∧
    (failures = [] → (type.isCore = true ∨ ∃ step ∈ steps, step.installs type = true) →
      (∀ options,
        (reader steps).answer user (.list type options) = .objects (added.filter options.keeps) ∧
        (reader steps).answer user (.listPartial type options) =
          .partialObjects ((added.filter options.keeps).map (Object.toPartial type))) ∧
      ∀ name namespaceName,
        (reader steps).answer user (.get type name namespaceName) =
          match (added.filter (ListOptions.keeps { namespaceName })).find? (fun o => Item.name o = name) with
          | some o => .object o
          | none => .failed (.notFound type.text name)) ∧
    (∀ (options : ListOptions) (o : Object), options.keeps o = true ↔
      (∀ ns, options.namespaceName = some ns → Item.namespaceName o = some ns) ∧
      ∀ selector, options.selector = some selector → Selector.selects selector o = true) ∧
    (failures = [] → (reader steps).answer user (.getSingleton type) =
      match added with
      | [] => .singleton none
      | [o] => .singleton (some o)
      | _ => .failed (.ambiguous type.text added.length)) ∧
    ∀ before a b after, steps = before ++ a :: b :: after → a.type ≠ b.type →
      ∀ request, (reader (before ++ b :: a :: after)).answer user request = (reader steps).answer user request := by
  intro reader added failures
  refine ⟨fun e he => ?_, fun hfailures hcore huninstalled => ?_, fun hfailures hinstalled => ⟨?_, ?_⟩,
    ListOptions.keeps_iff, fun hfailures => ?_, ?_⟩
  · exact fails_of_list (list_built_of_failure he) user
  · exact fails_of_list (list_built_of_uninstalled hfailures hcore huninstalled) user
  · intro options
    constructor
    · rw [answer, list_built_of_installed hfailures hinstalled, replyOf]
    · rw [answer, list_built_of_installed hfailures hinstalled, replyOf]
  · intro name namespaceName
    rw [answer, Inventory.get, list_built_of_installed hfailures hinstalled]
    change replyOf _ (match List.find? _ (added.filter _) with | some o => _ | none => _) = _
    cases (added.filter (ListOptions.keeps { namespaceName })).find? (fun o => Item.name o = name) <;> rfl
  · rw [answer, singletonOf, orEmpty_list_built hfailures]
    change replyOf _ (match added with | [] => _ | [o] => _ | objects => _) = _
    match added with
    | [] => rfl
    | [o] => rfl
    | o :: o' :: os => rfl
  · rintro before a b after rfl hne request
    exact answer_of_alike (built_alike_swap hne before after) s user request

open Inventory in
/-- Notebooks that are added between a failure of another type and a later one. -/
theorem reads_of_two_notebooks :
    let first := Object.new .notebook (some "red") "a"
    let second := Object.new .notebook (some "blue") "b"
    let steps : List Step := [.failure .inferenceService (.forbidden "early"), .object .notebook first,
      .failure .inferenceService (.forbidden "late"), .object .notebook second]
    let reader : Session := { inventory := built [] steps }
    reader.Fails .first .inferenceService (.forbidden "late") ∧
    reader.Fails .first .initialization (.typeNotInstalled ResourceType.initialization.text) ∧
    reader.answer .first (.list .notebook { namespaceName := some "blue" }) = .objects [second] ∧
    reader.answer .first (.getSingleton .notebook) = .failed (.ambiguous ResourceType.notebook.text 2) ∧
    ∀ request, { reader with inventory := built [] [.object .notebook first, .failure .inferenceService
      (.forbidden "early"), .failure .inferenceService (.forbidden "late"),
      .object .notebook second] }.answer .first
        request = reader.answer .first request := by
  intro first second steps reader
  have hreads := reads_of_built { inventory := {} } steps .first
  obtain ⟨hfailure, -⟩ := hreads .inferenceService
  obtain ⟨-, huninstalled, -⟩ := hreads .initialization
  obtain ⟨-, -, hinstalled, -, hsingleton, hswap⟩ := hreads .notebook
  refine ⟨hfailure _ rfl, huninstalled rfl rfl (by decide), ?_, hsingleton rfl, ?_⟩
  · exact ((hinstalled rfl (.inr ⟨.object .notebook first, .tail _ (.head _), rfl⟩)).1 _).1
  · exact hswap [] _ _ _ rfl (by decide)

end Session

end Preflight

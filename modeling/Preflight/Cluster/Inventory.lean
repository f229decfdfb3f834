import Preflight.Cluster.ReadFailure
import Preflight.Cluster.Selector
import Preflight.Cluster.Subscription

/-! # What a cluster holds, and how it is read
An inventory is a list of objects with their types, the types that are served, the failures that stand in the
way of reading a type, and the subscriptions. Every read of objects goes through `Inventory.list`: a failure of
the type comes first, then the question whether the type is served at all, then the filters. -/
namespace Preflight

/-- Restricts a listing to a namespace and to the objects that a label selector selects. -/
structure ListOptions where
  namespaceName : Option String := none
  selector : Option String := none
  deriving DecidableEq

namespace ListOptions

def keeps {α : Type} [Item α] (o : ListOptions) (item : α) : Bool :=
  (match o.namespaceName with
    | some ns => Item.namespaceName item = some ns
    | none => true) &&
  (match o.selector with
    | some selector => Selector.selects selector item
    | none => true)

end ListOptions

structure Inventory where
  objects : List (ResourceType × Object) := []
  installed : List ResourceType := []
  failures : List (ResourceType × ReadFailure) := []
  subscriptions : List Subscription := []

namespace Inventory

def install (i : Inventory) (type : ResourceType) : Inventory := { i with installed := type :: i.installed }

/-- Adds an object behind the others and installs its type. -/
def addObject (i : Inventory) (type : ResourceType) (object : Object) : Inventory :=
  { i.install type with objects := i.objects ++ [(type, object)] }

/-- Makes every read of a type fail. A later failure takes the place of an earlier one. -/
def addFailure (i : Inventory) (type : ResourceType) (failure : ReadFailure) : Inventory :=
  { i with failures := (type, failure) :: i.failures }

def addSubscription (i : Inventory) (s : Subscription) : Inventory :=
  { i with subscriptions := i.subscriptions ++ [s] }

/-- Removes the objects and the failures; the types stay installed. -/
def clear (i : Inventory) : Inventory := { i with objects := [], failures := [] }

def failure? (i : Inventory) (type : ResourceType) : Option ReadFailure :=
  (i.failures.find? (·.1 = type)).map (·.2)

def serves (i : Inventory) (type : ResourceType) : Bool := type.isCore || i.installed.contains type

def objectsOf (i : Inventory) (type : ResourceType) : List Object :=
  (i.objects.filter (·.1 = type)).map (·.2)

def list (i : Inventory) (type : ResourceType) (options : ListOptions) : Except ReadFailure (List Object) :=
  match i.failure? type with
  | some failure => .error failure
  | none =>
    if i.serves type then .ok ((i.objectsOf type).filter options.keeps)
    else .error (.typeNotInstalled type.text)

/-- The first object of a name, in one namespace or in all of them. -/
def get (i : Inventory) (type : ResourceType) (name : String) (namespaceName : Option String) :
    Except ReadFailure Object := do
  let objects ← i.list type { namespaceName }
  match objects.find? (fun o => Item.name o = name) with
  | some o => return o
  | none => throw (.notFound type.text name)

end Inventory

/-- What a listing means to those to whom a type that is not installed is one without objects. -/
def orEmpty : Except ReadFailure (List Object) → Except ReadFailure (List Object)
  | .error e => if e.isTypeNotInstalled then .ok [] else .error e
  | objects => objects

/-- The only object of a listing, if it has any; more than one is a failure. -/
def singletonOf (type : ResourceType) (listing : Except ReadFailure (List Object)) :
    Except ReadFailure (Option Object) := do
  match ← orEmpty listing with
  | [] => return none
  | [o] => return some o
  | objects => throw (.ambiguous type.text objects.length)

/-- A cluster as one of its users sees it: the inventory, whether the lifecycle manager of operators can be
reached, and how long a read takes. -/
structure Cluster where
  inventory : Inventory := {}
  subscriptionFailure : Option ReadFailure := none
  managerAvailable : Bool := true
  latency : Nat := 0

namespace Cluster

/-- The name of a cluster that is held in memory. -/
def clientName : String := "Mock"

/-- What is said where the lifecycle manager cannot be reached. -/
def managerUnavailable : String := "OLM client not available"

def list (c : Cluster) (type : ResourceType) (options : ListOptions) : Except ReadFailure (List Object) :=
  c.inventory.list type options

def subscriptions (c : Cluster) : Except ReadFailure (List Subscription) :=
  if c.managerAvailable then
    match c.subscriptionFailure with
    | some failure => .error failure
    | none => .ok c.inventory.subscriptions
  else .error (.transport managerUnavailable)

end Cluster

end Preflight

import Preflight.Finding.Condition

/-! # Findings
What one evaluation of a check produces: conditions in the order in which they were stated, annotations, and
the objects that they affect. Affected objects that were never set differ from an empty list of them. -/
namespace Preflight

inductive CheckGroup | component | workload | dependency
  deriving DecidableEq

namespace CheckGroup

def name : CheckGroup → String
  | .component => "component"
  | .workload => "workload"
  | .dependency => "dependency"

def all : List CheckGroup := [.component, .workload, .dependency]

def ofJson (d : Dialect) : Json → Decoded CheckGroup := Json.asVariant d (all.map fun g => (g.name, g))

def less (a b : CheckGroup) : Bool := decide (a.ctorIdx < b.ctorIdx)

end CheckGroup

/-- The API version and the kind that an object declares. -/
structure TypeMeta where
  apiVersion : String
  kind : String
  deriving DecidableEq

namespace TypeMeta

def fields (t : TypeMeta) : List (String × Json) := [("apiVersion", .str t.apiVersion), ("kind", .str t.kind)]

def toJson (t : TypeMeta) : Json := .obj t.fields

def ofSlots (s : Slots) : Decoded TypeMeta := do
  let apiVersion ← s.required "apiVersion" Json.asString
  let kind ← s.required "kind" Json.asString
  return { apiVersion, kind }

def ofJson (d : Dialect) : Json → Decoded TypeMeta := Json.asRecord d "TypeMeta" ["apiVersion", "kind"] ofSlots

end TypeMeta

/-- A reference to an object whose type is known from elsewhere. -/
structure ObjectRef where
  namespaceName : Option String
  name : String
  annotations : Dictionary String := Dictionary.empty
  deriving DecidableEq

/-- An object of the cluster that a condition affects. -/
structure AffectedObject where
  type : TypeMeta
  namespaceName : Option String
  name : String
  annotations : Dictionary String := Dictionary.empty
  deriving DecidableEq

namespace AffectedObject

def ofRef (type : TypeMeta) (r : ObjectRef) : AffectedObject := ⟨type, r.namespaceName, r.name, r.annotations⟩

/-- Kind, namespace and name between slashes. -/
def text (o : AffectedObject) : String :=
  match o.namespaceName with
  | some ns => o.type.kind ++ "/" ++ ns ++ "/" ++ o.name
  | none => o.type.kind ++ "/" ++ o.name

def toJson (o : AffectedObject) : Json :=
  .obj (o.type.fields ++ Json.optionalMember "namespace" .str o.namespaceName ++ [("name", .str o.name)] ++
    (if o.annotations.isEmpty then [] else [("annotations", Json.ofDictionary .str o.annotations)]))

def ofJson : Json → Decoded AffectedObject :=
  Json.asFlatRecord "ImpactedObject" fun s => do
    let namespaceName ← s.defaulted "namespace" (Json.asOption Json.asString) none
    let name ← s.required "name" Json.asString
    let annotations ← s.defaulted "annotations" (Json.asDictionary Json.asString) Dictionary.empty
    let type ← TypeMeta.ofSlots s
    return { type, namespaceName, name, annotations }

end AffectedObject

structure Finding where
  group : CheckGroup
  /-- What the check inspects: a component, a kind of resource or an operator. -/
  kind : String
  name : String
  description : String
  annotations : Dictionary String := Dictionary.empty
  conditions : List Condition := []
  remediation : Option String := none
  affected : Option (List AffectedObject) := none
  deriving DecidableEq

namespace Finding

def state (f : Finding) (c : Condition) : Finding := { f with conditions := f.conditions ++ [c] }

def annotate (f : Finding) (key value : String) : Finding :=
  { f with annotations := f.annotations.insert key value }

def annotationOf (f : Finding) (key : String) : Option String := f.annotations.find? key

def condition? (f : Finding) (type : String) : Option Condition := f.conditions.find? (·.type = type)

/-- Replaces the affected objects, all of which have the given type. -/
def setAffected (f : Finding) (type : TypeMeta) (objects : List ObjectRef) : Finding :=
  { f with affected := some (objects.map (AffectedObject.ofRef type)) }

def affectedObjects (f : Finding) : List AffectedObject := f.affected.getD []

def fails (f : Finding) : Bool := f.conditions.any Condition.fails

def failsBlocking (f : Finding) : Bool := f.conditions.any Condition.failsBlocking

def toJson (f : Finding) : Json :=
  .obj ([("group", .str f.group.name), ("kind", .str f.kind), ("name", .str f.name),
    ("description", .str f.description), ("annotations", Json.ofDictionary .str f.annotations),
    ("conditions", .arr (f.conditions.map Condition.toJson))] ++
    Json.optionalMember "remediation" .str f.remediation ++
    Json.optionalMember "impactedObjects" (fun os => .arr (os.map AffectedObject.toJson)) f.affected)

def ofJson (d : Dialect) : Json → Decoded Finding :=
  Json.asRecord d "DiagnosticResult" ["group", "kind", "name", "description", "annotations", "conditions",
      "remediation", "impactedObjects"] fun s => do
    let group ← s.required "group" (CheckGroup.ofJson d)
    let kind ← s.required "kind" Json.asString
    let name ← s.required "name" Json.asString
    let description ← s.required "description" Json.asString
    let annotations ← s.defaulted "annotations" (Json.asDictionary Json.asString) Dictionary.empty
    let conditions ← s.defaulted "conditions" (Json.asArray (Condition.ofJson d)) []
    let remediation ← s.defaulted "remediation" (Json.asOption Json.asString) none
    let affected ← s.defaulted "impactedObjects" (Json.asOption (Json.asArray AffectedObject.ofJson)) none
    return { group, kind, name, description, annotations, conditions, remediation, affected }

end Finding

end Preflight

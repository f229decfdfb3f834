import Preflight.Cluster.FieldPath
import Preflight.Cluster.ResourceType

/-! # Objects of a cluster
An object is kept whole, as an arbitrary value, or reduced to its metadata. `Item` is what both shapes offer: a
name, a namespace, annotations and labels. A whole object answers from whatever its body holds, entry by entry;
the reduced one holds nothing unless all of the metadata is well formed. -/
namespace Preflight

structure ObjectMeta where
  name : String := ""
  namespaceName : Option String := none
  labels : Dictionary String := Dictionary.empty
  annotations : Dictionary String := Dictionary.empty
  deriving DecidableEq, Inhabited

namespace ObjectMeta

def toJson (m : ObjectMeta) : Json :=
  .obj ([("name", .str m.name)] ++ Json.optionalMember "namespace" .str m.namespaceName ++
    (if m.labels.isEmpty then [] else [("labels", Json.ofDictionary .str m.labels)]) ++
    (if m.annotations.isEmpty then [] else [("annotations", Json.ofDictionary .str m.annotations)]))

def ofJson (d : Dialect) : Json → Decoded ObjectMeta :=
  Json.asRecord d "ObjectMeta" ["name", "namespace", "labels", "annotations"] fun s => do
    let name ← s.defaulted "name" Json.asString ""
    let namespaceName ← s.defaulted "namespace" (Json.asOption Json.asString) none
    let labels ← s.defaulted "labels" (Json.asDictionary Json.asString) Dictionary.empty
    let annotations ← s.defaulted "annotations" (Json.asDictionary Json.asString) Dictionary.empty
    return { name, namespaceName, labels, annotations }

end ObjectMeta

/-- An object reduced to its type and its metadata. -/
structure PartialObject where
  type : TypeMeta
  metadata : ObjectMeta
  deriving DecidableEq

namespace PartialObject

def toJson (o : PartialObject) : Json := .obj (o.type.fields ++ [("metadata", o.metadata.toJson)])

def ofJson (d : Dialect) : Json → Decoded PartialObject :=
  Json.asFlatRecord "PartialObjectMetadata" fun s => do
    let metadata ← s.defaulted "metadata" (ObjectMeta.ofJson d) default
    let type ← TypeMeta.ofSlots s
    return { type, metadata }

end PartialObject

/-- An object with its whole body. -/
structure Object where
  body : Json
  deriving BEq, Inhabited

namespace Object

/-- The object of a type that has nothing but a name and perhaps a namespace. -/
def new (type : ResourceType) (namespaceName : Option String) (name : String) : Object :=
  ⟨Json.object [("apiVersion", .str type.apiVersion), ("kind", .str type.kind),
    ("metadata", Json.object (("name", .str name) :: Json.optionalMember "namespace" .str namespaceName))]⟩

def withField (o : Object) (key : String) (value : Json) : Object := ⟨o.body.setMember key value⟩

/-- Writes an entry into a section of the metadata. The section is begun if it is absent; metadata or a section
that is no object stays as it is. -/
def withEntry (o : Object) (sectionName key value : String) : Object :=
  match o.body.member? "metadata" with
  | some (.obj members) =>
    let current := (Entries.find? sectionName members).getD (.obj [])
    let metadata := (Json.obj members).setMember sectionName (current.setMember key (.str value))
    o.withField "metadata" metadata
  | _ => o

def withAnnotation (o : Object) (key value : String) : Object := o.withEntry "annotations" key value

def withLabel (o : Object) (key value : String) : Object := o.withEntry "labels" key value

def get? (o : Object) (path : FieldPath) : Option Json := path.lookup o.body

def metadataText? (o : Object) (field : String) : Option String :=
  o.body.member? "metadata" >>= Json.member? field >>= Json.string?

def entry? (o : Object) (sectionName key : String) : Option String :=
  o.body.member? "metadata" >>= Json.member? sectionName >>= Json.member? key >>= Json.string?

/-- The metadata as a record; the empty one if any part of it is malformed. -/
def metadata (o : Object) : ObjectMeta :=
  match (o.body.member? "metadata").map (ObjectMeta.ofJson .json) with
  | some (.ok metadata) => metadata
  | _ => {}

def toPartial (type : ResourceType) (o : Object) : PartialObject := ⟨type.typeMeta, o.metadata⟩

end Object

/-- The shapes in which the objects of a type can be listed. -/
class Item (α : Type) where
  ofObject : ResourceType → Object → α
  name : α → String
  namespaceName : α → Option String
  annotationOf : α → String → Option String
  labelOf : α → String → Option String

instance : Item Object where
  ofObject _ o := o
  name o := (o.metadataText? "name").getD ""
  namespaceName o := o.metadataText? "namespace"
  annotationOf o := o.entry? "annotations"
  labelOf o := o.entry? "labels"

instance : Item PartialObject where
  ofObject := Object.toPartial
  name o := o.metadata.name
  namespaceName o := o.metadata.namespaceName
  annotationOf o := o.metadata.annotations.find?
  labelOf o := o.metadata.labels.find?

namespace Item

def ref {α : Type} [Item α] (item : α) : ObjectRef := ⟨namespaceName item, name item, Dictionary.empty⟩

end Item

end Preflight

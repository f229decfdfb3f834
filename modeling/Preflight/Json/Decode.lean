import Preflight.Json.Printer
import Preflight.Text.Quoted

/-! # Reading records out of JSON values
A record is read from an object, by the names of its fields, or from an array, by their order. Unknown members
are ignored. `Slots` is what a record finds under its fields, and the three ways to take a field from it
(`required`, `optional`, `defaulted`) say what an absent one means. Reading stops at the first error. -/
namespace Preflight

inductive DecodeError where
  | invalidType (found : Json) (expected : String)
  | notSingleEntry
  | invalidLength (length : Nat) (expected : String)
  | unknownVariant (name : String) (expected : List String)
  | missingField (name : String)
  | invalidValue (text : String)
  deriving BEq

/-- What a message calls a value. -/
def Json.describe : Json → String
  | .null => "null"
  | .bool value => "boolean `" ++ toString value ++ "`"
  | .int value => "integer `" ++ toString value ++ "`"
  | .float value => "floating point `" ++ value.text ++ "`"
  | .str value => "string " ++ Text.quote value
  | .arr _ => "sequence"
  | .obj _ => "map"

namespace DecodeError

def listed (names : List String) : String := ", ".intercalate (names.map fun n => "`" ++ n ++ "`")

def oneOf (names : List String) : String :=
  match names with
  | [] => "there are no variants"
  | [name] => "expected `" ++ name ++ "`"
  | [first, second] => "expected `" ++ first ++ "` or `" ++ second ++ "`"
  | names => "expected one of " ++ listed names

def message : DecodeError → String
  | .invalidType found expected => "invalid type: " ++ found.describe ++ ", expected " ++ expected
  | .notSingleEntry => "invalid value: map, expected map with a single key"
  | .invalidLength length expected => "invalid length " ++ toString length ++ ", expected " ++ expected
  | .unknownVariant name expected => "unknown variant `" ++ name ++ "`, " ++ oneOf expected
  | .missingField name => "missing field `" ++ name ++ "`"
  | .invalidValue text => text

end DecodeError

abbrev Decoded (α : Type) := Except DecodeError α

/-- The conventions in which the formats differ: whether an array may hold more elements than the record has
fields, and which values may stand beside the name in an object that names a variant. -/
structure Dialect where
  surplus : Bool
  isUnit : Json → Bool

namespace Dialect

def json : Dialect := ⟨false, fun v => v matches .null⟩

/-- Inside a tagged value an empty object stands for nothing, too. -/
def tagged : Dialect := ⟨false, fun v => v matches .null | .obj []⟩

def toml : Dialect := ⟨true, fun v => v matches .obj [] | .arr []⟩

end Dialect

namespace Json

def asString : Json → Decoded String
  | .str s => .ok s
  | v => .error (.invalidType v "a string")

/-- A natural number below `bound`. -/
def asNatBelow (bound : Nat) : Json → Decoded Nat
  | .int n => if 0 ≤ n ∧ n < bound then .ok n.toNat else .error (.invalidValue "integer out of range")
  | v => .error (.invalidType v "an integer")

def asArray (item : Json → Decoded α) : Json → Decoded (List α)
  | .arr items => items.mapM item
  | v => .error (.invalidType v "a sequence")

def asDictionary (value : Json → Decoded α) : Json → Decoded (Dictionary α)
  | .obj members => do
    let entries ← members.mapM fun m => do
      let v ← value m.2
      return (m.1, v)
    return Dictionary.ofList entries
  | v => .error (.invalidType v "a map")

/-- A missing value and `null` are both nothing. -/
def asOption (value : Json → Decoded α) : Json → Decoded (Option α)
  | .null => .ok none
  | v => some <$> value v

def findVariant (variants : List (String × α)) (name : String) : Decoded α :=
  match Entries.find? name variants with
  | some a => .ok a
  | none => .error (.unknownVariant name (variants.map (·.1)))

/-- One of a closed list of names, or an object whose only member has such a name and stands for nothing. -/
def asVariant (d : Dialect) (variants : List (String × α)) : Json → Decoded α
  | .str name => findVariant variants name
  | .obj [(name, value)] => do
    let a ← findVariant variants name
    if d.isUnit value then return a
    throw (.invalidType value "unit")
  | .obj _ => .error .notSingleEntry
  | v => .error (.invalidType v "string or map")

end Json

/-- Where the fields of a record are looked up. -/
inductive Slots where
  | members (members : List (String × Json))
  | elements (record : String) (fields : List String) (elements : List Json)

namespace Slots

def countOf (n : Nat) : String := toString n ++ (if n = 1 then " element" else " elements")

/-- The value under a field; an absent one is an error. -/
def find (s : Slots) (field : String) : Decoded Json :=
  match s with
  | .members ms =>
    match Entries.find? field ms with
    | some v => .ok v
    | none => .error (.missingField field)
  | .elements record fields xs =>
    match xs[fields.idxOf field]? with
    | some v => .ok v
    | none => .error (.invalidLength xs.length
        ("struct " ++ record ++ " with " ++ countOf fields.length))

def required (s : Slots) (field : String) (value : Json → Decoded α) : Decoded α := do
  value (← s.find field)

/-- The default of an absent field; a value that is there is read and never replaced. -/
def defaulted (s : Slots) (field : String) (value : Json → Decoded α) (default : α) : Decoded α :=
  match s.find field with
  | .ok v => value v
  | .error _ => .ok default

/-- An optional field: nothing when an object lacks it or has `null`. An array has to have an element for it. -/
def optional (s : Slots) (field : String) (value : Json → Decoded α) : Decoded (Option α) :=
  match s with
  | .members ms => (Slots.members ms).defaulted field (Json.asOption value) none
  | s => s.required field (Json.asOption value)

end Slots

namespace Json

/-- A record from an object or an array. -/
def asRecord (d : Dialect) (record : String) (fields : List String) (body : Slots → Decoded α) : Json → Decoded α
  | .obj members => body (.members members)
  | .arr elements => do
    let a ← body (.elements record fields elements)
    if !d.surplus && fields.length < elements.length then
      throw (.invalidLength elements.length "fewer elements in array")
    return a
  | v => .error (.invalidType v ("struct " ++ record))

/-- A record that shares its object with another one, and so cannot be an array. -/
def asFlatRecord (record : String) (body : Slots → Decoded α) : Json → Decoded α
  | .obj members => body (.members members)
  | v => .error (.invalidType v ("struct " ++ record))

end Json

end Preflight

import Preflight.Entries
import Preflight.Text.Numeral

/-! # JSON values
Values as they come from a cluster or go into a report. The members of an object are a list: `Json.object`
puts them into key order, and a record that is written out keeps the order of its fields. -/
namespace Preflight

/-- A number with a fraction, `mantissa / 10 ^ places`. It is carried along and never computed with. -/
structure Decimal where
  mantissa : Int
  places : Nat
  deriving DecidableEq

namespace Decimal

/-- Drops the zeros at the end of the fraction, down to one place. -/
def normalize (mantissa : Int) : Nat → Decimal
  | 0 => ⟨mantissa * 10, 1⟩
  | 1 => ⟨mantissa, 1⟩
  | places + 1 => if mantissa % 10 = 0 then normalize (mantissa / 10) places else ⟨mantissa, places + 1⟩

/-- Positional notation with every place written. -/
def text (d : Decimal) : String :=
  let digits := Text.padded (d.places + 1) d.mantissa.natAbs
  let whole := digits.length - d.places
  String.ofList ((if d.mantissa < 0 then ['-'] else []) ++ digits.take whole ++ '.' :: digits.drop whole)

end Decimal

inductive Json where
  | null
  | bool (value : Bool)
  | int (value : Int)
  | float (value : Decimal)
  | str (value : String)
  | arr (items : List Json)
  | obj (members : List (String × Json))
  deriving BEq, Inhabited

namespace Json

/-- The object with the given members in key order; of two with one key the later one counts. -/
def object (members : List (String × Json)) : Json := .obj (Entries.ofList members)

def strings (texts : List String) : Json := .arr (texts.map .str)

def ofDictionary {α : Type} (value : α → Json) (d : Dictionary α) : Json :=
  .obj (d.entries.map fun e => (e.1, value e.2))

/-- The member for a value that may be missing, to be spliced into the members of an object. -/
def optionalMember {α : Type} (key : String) (value : α → Json) : Option α → List (String × Json)
  | some a => [(key, value a)]
  | none => []

/-- The member of an object; other values have none. -/
def member? (key : String) : Json → Option Json
  | .obj members => Entries.find? key members
  | _ => none

def string? : Json → Option String
  | .str s => some s
  | _ => none

/-- Sets a member of an object and leaves every other value as it is. -/
def setMember (j : Json) (key : String) (value : Json) : Json :=
  match j with
  | .obj members => .obj (Entries.insert key value members)
  | other => other

end Json

end Preflight

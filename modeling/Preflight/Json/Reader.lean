import Preflight.Json.Basic
import Preflight.Toml.Quoted

/-! # Reading JSON text
A value with blanks anywhere between its tokens. A numeral may have a fraction but no exponent, and a text has the
escapes that basic strings of TOML have, the solidus besides; pairs of surrogates are not read. `fuel` is more than
the characters left to read. -/
namespace Preflight.Json

open Toml Text

def isBlank (c : Char) : Bool := c = ' ' || c = '\n' || c = '\t' || c = '\r'

def dropBlanks (s : List Char) : List Char := s.dropWhile isBlank

/-- The rest of a text whose opening quote has been consumed. -/
def takeQuoted : List Char → Taken
  | [] => none
  | '"' :: s => some ([], s)
  | '\\' :: 'u' :: w :: x :: y :: z :: s => do (takeQuoted s).push (← hexChar? [w, x, y, z])
  | '\\' :: c :: s => do (takeQuoted s).push (← if c = '/' then some c else unescape? c)
  | c :: s => (takeQuoted s).push c

def isNumeric (c : Char) : Bool := c.isDigit || c = '-'

def signed (negative : Bool) (n : Nat) : Int := if negative then -n else n

/-- Digits and, behind a point, the digits of a fraction. -/
def takeUnsigned? (negative : Bool) (s : List Char) : Option (Json × List Char) :=
  let digits := s.takeWhile Char.isDigit
  if digits = [] then none else
  match s.dropWhile Char.isDigit with
  | '.' :: rest =>
    let places := rest.takeWhile Char.isDigit
    some (.float ⟨signed negative (numeralValue (digits ++ places)), places.length⟩, rest.dropWhile Char.isDigit)
  | rest => some (.int (signed negative (numeralValue digits)), rest)

def takeNumber? : List Char → Option (Json × List Char)
  | '-' :: s => takeUnsigned? true s
  | s => takeUnsigned? false s

/-- The key of a member, with the colon behind it. -/
def takeKey? (s : List Char) : Option (String × List Char) := do
  let '"' :: s := dropBlanks s | none
  let (key, s) ← takeQuoted s
  let ':' :: s := dropBlanks s | none
  return (String.ofList key, s)

mutual
def takeValue? : (fuel : Nat) → List Char → Option (Json × List Char)
  | 0, _ => none
  | fuel + 1, s =>
    let s := dropBlanks s
    if s.head?.any isNumeric then takeNumber? s else
    match s with
    | 'n' :: 'u' :: 'l' :: 'l' :: s => some (.null, s)
    | 't' :: 'r' :: 'u' :: 'e' :: s => some (.bool true, s)
    | 'f' :: 'a' :: 'l' :: 's' :: 'e' :: s => some (.bool false, s)
    | '"' :: s => (takeQuoted s).map fun p => (.str (String.ofList p.1), p.2)
    | '[' :: s =>
      match dropBlanks s with
      | ']' :: s => some (.arr [], s)
      | _ => (takeItems? fuel s).map fun p => (.arr p.1, p.2)
    | '\x7b' :: s =>
      match dropBlanks s with
      | '\x7d' :: s => some (.obj [], s)
      | _ => (takeMembers? fuel s).map fun p => (.obj p.1, p.2)
    | _ => none

/-- The rest of an array, from its next item on. -/
def takeItems? : (fuel : Nat) → List Char → Option (List Json × List Char)
  | 0, _ => none
  | fuel + 1, s => do
    let (item, s) ← takeValue? fuel s
    match dropBlanks s with
    | ']' :: s => return ([item], s)
    | ',' :: s =>
      let (items, s) ← takeItems? fuel s
      return (item :: items, s)
    | _ => none

/-- The rest of an object, from its next member on. -/
def takeMembers? : (fuel : Nat) → List Char → Option (List (String × Json) × List Char)
  | 0, _ => none
  | fuel + 1, s => do
    let (key, s) ← takeKey? s
    let (value, s) ← takeValue? fuel s
    match dropBlanks s with
    | '\x7d' :: s => return ([(key, value)], s)
    | ',' :: s =>
      let (members, s) ← takeMembers? fuel s
      return ((key, value) :: members, s)
    | _ => none
end

/-- The value that a whole text is. -/
def read? (text : String) : Option Json := do
  let (value, rest) ← takeValue? (text.length + 1) text.toList
  if dropBlanks rest = [] then some value else none

end Preflight.Json

import Preflight.Json.Basic
import Preflight.Timestamp

/-! # Numbers and dates of TOML
Readers of the values that begin with a digit or a sign. Integers are signed 64-bit numbers. A float is read for
its form and its type alone, since no setting is one, and a date becomes an object with a single member. -/
namespace Preflight.Toml

/-- Digits behind the first one, in which a single underscore may stand between two digits. -/
def takeMoreDigits (isDigit : Char → Bool) : List Char → List Char × List Char
  | '_' :: c :: s =>
    if isDigit c then ((c :: (takeMoreDigits isDigit s).1), (takeMoreDigits isDigit s).2)
    else ([], '_' :: c :: s)
  | c :: s =>
    if isDigit c then ((c :: (takeMoreDigits isDigit s).1), (takeMoreDigits isDigit s).2)
    else ([], c :: s)
  | [] => ([], [])

/-- One digit or more, with underscores between them. -/
def takeDigits? (isDigit : Char → Bool) : List Char → Option (List Char × List Char)
  | c :: s =>
    if isDigit c then some ((c :: (takeMoreDigits isDigit s).1), (takeMoreDigits isDigit s).2) else none
  | [] => none

/-- The digits of a decimal integer: a lone zero, or digits of which the first is no zero. -/
def takeDecimal? : List Char → Option (List Char × List Char)
  | '0' :: s => some (['0'], s)
  | s => takeDigits? Char.isDigit s

def takeSign : List Char → Bool × List Char
  | '-' :: s => (true, s)
  | '+' :: s => (false, s)
  | s => (false, s)

/-- The integers of the format run from this number negated up to the one before this number. -/
def integerBound : Nat := UInt64.size / 2

/-- A number of the given base that a signed 64-bit integer can hold. -/
def integerOf? (negative : Bool) (base : Nat) (digits : List Char) : Option Json :=
  let value := digits.foldl (fun acc c => base * acc +
    (if c.isDigit then c.toNat - '0'.toNat else c.toLower.toNat - 'a'.toNat + 10)) 0
  if negative then (if value ≤ integerBound then some (.int (-(value : Int))) else none)
  else if value < integerBound then some (.int value) else none

def isHexDigit (c : Char) : Bool := c.isDigit || ('a' ≤ c && c ≤ 'f') || ('A' ≤ c && c ≤ 'F')

def isOctalDigit (c : Char) : Bool := '0' ≤ c && c ≤ '7'

def isBinaryDigit (c : Char) : Bool := c = '0' || c = '1'

/-- An integer in base ten with an optional sign, or in base 16, 8 or 2 without one. -/
def takeInteger? (s : List Char) : Option (Json × List Char) :=
  let based := fun (base : Nat) (isDigit : Char → Bool) (s : List Char) => do
    let (digits, s) ← takeDigits? isDigit s
    return (← integerOf? false base digits, s)
  match s with
  | '0' :: 'x' :: s => based 16 isHexDigit s
  | '0' :: 'o' :: s => based 8 isOctalDigit s
  | '0' :: 'b' :: s => based 2 isBinaryDigit s
  | s => do
    let (negative, s) := takeSign s
    let (digits, s) ← takeDecimal? s
    return (← integerOf? negative 10 digits, s)

/-- Whether `digits * 10 ^ exponent` lies nearer to the first power of two that 64-bit floats leave out than to
their greatest number. -/
def exceedsFloats (digits : Nat) (exponent : Int) : Bool :=
  let length : Int := (Text.numeral digits).length
  let bound := Nat.pow 2 1024 - Nat.pow 2 970
  if digits = 0 || exponent + length < 300 then false
  else if 400 < exponent + length then true
  else digits * Nat.pow 10 exponent.toNat ≥ bound * Nat.pow 10 (-exponent).toNat

def takeFractionPart? : List Char → Option (List Char × List Char)
  | '.' :: s => takeDigits? Char.isDigit s
  | _ => none

def takeExponentPart? : List Char → Option (Int × List Char)
  | c :: s =>
    if c = 'e' ∨ c = 'E' then do
      let (negative, s) := takeSign s
      let (digits, s) ← takeDigits? Char.isDigit s
      let value : Int := Text.numeralValue digits
      return (if negative then -value else value, s)
    else none
  | [] => none

def someFloat : Json := .float ⟨0, 1⟩

/-- A float: digits with a fraction, an exponent or both, or the name of a special value. -/
def takeFloat? (s : List Char) : Option (Json × List Char) :=
  let (negative, unsigned) := takeSign s
  match unsigned with
  | 'i' :: 'n' :: 'f' :: s => some (someFloat, s)
  | 'n' :: 'a' :: 'n' :: s => some (someFloat, s)
  | s => do
    let (whole, s) ← takeDecimal? s
    let (fraction, hasFraction, s) := match takeFractionPart? s with
      | some (digits, s) => (digits, true, s)
      | none => ([], false, s)
    let (exponent, hasExponent, s) := match takeExponentPart? s with
      | some (exponent, s) => (exponent, true, s)
      | none => (0, false, s)
    if !hasFraction && !hasExponent then none
    else if !negative &&
        exceedsFloats (Text.numeralValue (whole ++ fraction)) (exponent - fraction.length) then none
    else return (someFloat, s)

def takeFixed? (width : Nat) (s : List Char) : Option (Nat × List Char) :=
  let digits := s.take width
  if digits.length = width ∧ digits.all Char.isDigit then some (Text.numeralValue digits, s.drop width) else none

def takeThe? (c : Char) : List Char → Option (List Char)
  | d :: s => if d = c then some s else none
  | [] => none

def takeDate? (s : List Char) : Option (List Char) := do
  let (year, s) ← takeFixed? 4 s
  let s ← takeThe? '-' s
  let (month, s) ← takeFixed? 2 s
  let s ← takeThe? '-' s
  let (day, s) ← takeFixed? 2 s
  if Timestamp.isDate year month day then some s else none

def takeTime? (s : List Char) : Option (List Char) := do
  let (hour, s) ← takeFixed? 2 s
  let s ← takeThe? ':' s
  let (minute, s) ← takeFixed? 2 s
  let s ← takeThe? ':' s
  let (second, s) ← takeFixed? 2 s
  if !Timestamp.isTime hour minute second 0 then none
  match s with
  | '.' :: c :: rest => if c.isDigit then return rest.dropWhile Char.isDigit else none
  | s => return s

/-- An offset from UTC, if there is one. -/
def dropOffset? (s : List Char) : Option (List Char) :=
  match s with
  | 'Z' :: s | 'z' :: s => some s
  | c :: rest =>
    if c = '+' ∨ c = '-' then do
      let (hour, rest) ← takeFixed? 2 rest
      let rest ← takeThe? ':' rest
      let (minute, rest) ← takeFixed? 2 rest
      if hour ≤ 23 ∧ minute ≤ 59 then some rest else none
    else some s
  | [] => some []

/-- Stands for any date or time of day. -/
def someDate : Json := .obj [("datetime", .str "")]

/-- A date, a time of day, or both, and then perhaps with an offset. -/
def takeDateTime? (s : List Char) : Option (Json × List Char) :=
  match takeDate? s with
  | none => (takeTime? s).map fun s => (someDate, s)
  | some s =>
    match s with
    | c :: rest =>
      if c = 'T' ∨ c = 't' ∨ c = ' ' then
        match takeTime? rest with
        | some rest => (dropOffset? rest).map fun s => (someDate, s)
        | none => some (someDate, s)
      else some (someDate, s)
    | [] => some (someDate, [])

/-- Any value that begins with a digit or a sign. -/
def takeNumeric? (s : List Char) : Option (Json × List Char) :=
  takeDateTime? s <|> takeFloat? s <|> takeInteger? s

end Preflight.Toml

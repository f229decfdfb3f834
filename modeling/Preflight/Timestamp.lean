import Preflight.Text.Numeral
import Preflight.Text.Blank

/-! # Points in time
A point in time is kept as the calendar date and the time of day that a clock in UTC shows, down to the
nanosecond; a leap second is a second numbered 60. `Timestamp.parse?` reads a date with its offset and
`Timestamp.text` writes the UTC date, with as few groups of three fraction digits as lose nothing. -/
namespace Preflight

namespace Timestamp

def isLeapYear (year : Int) : Bool := year % 4 = 0 && (year % 100 != 0 || year % 400 = 0)

def daysInMonth (year : Int) (month : Nat) : Nat :=
  if month = 2 then (if isLeapYear year then 29 else 28)
  else if month = 4 || month = 6 || month = 9 || month = 11 then 30
  else 31

/-- The years of a span of time that is counted in days with 19 bits for the year. -/
def isYear (year : Int) : Bool := -262143 ≤ year && year ≤ 262142

def isDate (year : Int) (month day : Nat) : Bool :=
  isYear year && 1 ≤ month && month ≤ 12 && 1 ≤ day && day ≤ daysInMonth year month

def isTime (hour minute second nanos : Nat) : Bool :=
  hour ≤ 23 && minute ≤ 59 && second ≤ 60 && nanos < 1000000000

end Timestamp

structure Timestamp where
  year : Int
  month : Nat
  day : Nat
  hour : Nat
  minute : Nat
  second : Nat
  nanos : Nat
  date_valid : Timestamp.isDate year month day = true := by rfl
  time_valid : Timestamp.isTime hour minute second nanos = true := by rfl
  deriving DecidableEq

namespace Timestamp

def epoch : Timestamp where
  year := 1970
  month := 1
  day := 1
  hour := 0
  minute := 0
  second := 0
  nanos := 0

instance : Inhabited Timestamp := ⟨epoch⟩

def ofFields? (year : Int) (month day hour minute second nanos : Nat) : Option Timestamp :=
  if h : isDate year month day = true ∧ isTime hour minute second nanos = true then
    some ⟨year, month, day, hour, minute, second, nanos, h.1, h.2⟩
  else none

def dayBefore (year : Int) (month day : Nat) : Int × Nat × Nat :=
  if 1 < day then (year, month, day - 1)
  else if 1 < month then (year, month - 1, daysInMonth year (month - 1))
  else (year - 1, 12, 31)

def dayAfter (year : Int) (month day : Nat) : Int × Nat × Nat :=
  if day < daysInMonth year month then (year, month, day + 1)
  else if month < 12 then (year, month + 1, 1)
  else (year + 1, 1, 1)

/-- The point in time at which a clock that is `offset` minutes ahead of UTC shows the given fields. -/
def ofLocal? (year : Int) (month day hour minute second nanos : Nat) (offset : Int) : Option Timestamp :=
  if isDate year month day then
    let minutes : Int := hour * 60 + minute - offset
    let date := if minutes < 0 then dayBefore year month day
      else if 1440 ≤ minutes then dayAfter year month day
      else (year, month, day)
    let ofDay := (minutes % 1440).toNat
    ofFields? date.1 date.2.1 date.2.2 (ofDay / 60) (ofDay % 60) second nanos
  else none

def yearChars (year : Int) : List Char :=
  if 0 ≤ year ∧ year ≤ 9999 then Text.padded 4 year.toNat
  else (if year < 0 then '-' else '+') :: Text.padded 4 year.natAbs

def fraction (nanos : Nat) : List Char :=
  if nanos = 0 then []
  else if nanos % 1000000 = 0 then '.' :: Text.padded 3 (nanos / 1000000)
  else if nanos % 1000 = 0 then '.' :: Text.padded 6 (nanos / 1000)
  else '.' :: Text.padded 9 nanos

/-- Date and time of day, without an offset. A year of other than four digits carries its sign. -/
def chars (t : Timestamp) : List Char :=
  yearChars t.year ++ '-' :: (Text.padded 2 t.month ++ '-' :: (Text.padded 2 t.day ++ 'T' ::
    (Text.padded 2 t.hour ++ ':' :: (Text.padded 2 t.minute ++ ':' ::
      (Text.padded 2 t.second ++ fraction t.nanos)))))

/-- The text that ends in `Z`. -/
def text (t : Timestamp) : String := String.ofList (t.chars ++ ['Z'])

/-- The text that spells the offset out. -/
def offsetText (t : Timestamp) : String := String.ofList (t.chars ++ "+00:00".toList)

/-- At least one and at most `width` digits at the start of a text, and what follows them. -/
def takeDigits? (width : Nat) (s : List Char) : Option (Nat × List Char) :=
  let digits := (s.take width).takeWhile Char.isDigit
  if digits = [] then none else some (Text.numeralValue digits, s.drop digits.length)

def takeNumber? (width : Nat) (s : List Char) : Option (Nat × List Char) := takeDigits? width (Text.trimStart s)

/-- A year: up to four digits, or any number of them after a sign. -/
def takeYear? (s : List Char) : Option (Int × List Char) :=
  match Text.trimStart s with
  | '-' :: r => (takeDigits? r.length r).map fun p => (-(p.1 : Int), p.2)
  | '+' :: r => (takeDigits? r.length r).map fun p => ((p.1 : Int), p.2)
  | r => (takeDigits? 4 r).map fun p => ((p.1 : Int), p.2)

def takeSeparator? (c : Char) (s : List Char) : Option (List Char) :=
  match Text.trimStart s with
  | d :: r => if d = c then some r else none
  | [] => none

/-- A fraction of a second in nanoseconds, of which digits beyond the ninth are dropped. -/
def takeFraction? : List Char → Option (Nat × List Char)
  | '.' :: r =>
    let digits := r.takeWhile Char.isDigit
    if digits = [] then none
    else some (Text.numeralValue (digits.take 9) * Nat.pow 10 (9 - digits.length), r.dropWhile Char.isDigit)
  | s => some (0, s)

def twoDigits? : List Char → Option (Nat × List Char)
  | a :: b :: r => if a.isDigit && b.isDigit then some (Text.numeralValue [a, b], r) else none
  | _ => none

/-- An offset from UTC in minutes: the letter `Z`, the name `UTC`, or a sign, two digits of hours and two of
minutes with any colons and white space between them. -/
def takeOffset? (s : List Char) : Option (Int × List Char) :=
  match s with
  | 'Z' :: r | 'z' :: r => some (0, r)
  | c :: r =>
    if (s.take 3).map Char.toUpper = ['U', 'T', 'C'] then some (0, s.drop 3)
    else if c = '+' ∨ c = '-' ∨ c = '\u2212' then do
      let (hours, r) ← twoDigits? r
      let (minutes, r) ← twoDigits? (r.dropWhile fun c => c = ':' || Text.isBlank c)
      if 23 < hours || 59 < minutes then none
      let total : Int := hours * 60 + minutes
      return (if c = '+' then total else -total, r)
    else none
  | [] => none

def parseChars? (s : List Char) : Option Timestamp := do
  let (year, s) ← takeYear? s
  let s ← takeSeparator? '-' s
  let (month, s) ← takeNumber? 2 s
  let s ← takeSeparator? '-' s
  let (day, s) ← takeNumber? 2 s
  let s ← match s with
    | 'T' :: r | 't' :: r | ' ' :: r => some r
    | _ => none
  let (hour, s) ← takeNumber? 2 s
  let s ← takeSeparator? ':' s
  let (minute, s) ← takeNumber? 2 s
  let s ← takeSeparator? ':' s
  let (second, s) ← takeNumber? 2 s
  let (nanos, s) ← takeFraction? s
  let (offset, s) ← takeOffset? (Text.trimStart s)
  if Text.trimStart s ≠ [] ∨ !isTime hour minute second nanos then none
  ofLocal? year month day hour minute second nanos offset

/-- Reads a date, a time of day and an offset, as in `2024-05-06T07:08:09.5+02:00`. White space may stand between
the parts. -/
def parse? (s : String) : Option Timestamp := parseChars? s.toList

end Timestamp

end Preflight

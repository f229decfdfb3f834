import Preflight.Json.Basic
import Preflight.Text.Split

/-! # Paths to a field of a resource
A path is written `.spec.components.kserve`; the single dot is the root. `FieldPath.parse` accepts exactly the
texts that `FieldPath.text` writes, and `FieldPath.lookup` follows a path through objects by member name and
through arrays by decimal index. -/
namespace Preflight

namespace FieldPath

/-- ASCII letters, digits, the underscore and the hyphen. -/
def isSegmentChar (c : Char) : Bool := c.isAlphanum || c = '_' || c = '-'

def isSegment (s : String) : Bool := !s.toList.isEmpty && s.toList.all isSegmentChar

end FieldPath

structure FieldPath where
  segments : List String
  valid : segments.all FieldPath.isSegment = true := by rfl
  deriving DecidableEq

/-- Why a text is no path. Every case carries the text. -/
inductive FieldPathError where
  | missingLeadingDot (path : String)
  | emptySegment (path : String) (position : Nat)
  | invalidCharacter (path : String) (ch : Char)
  deriving DecidableEq

namespace FieldPathError

def message : FieldPathError → String
  | .missingLeadingDot path => "field path '" ++ path ++ "' must start with '.'"
  | .emptySegment path position =>
    "field path '" ++ path ++ "' has an empty segment at position " ++ toString position
  | .invalidCharacter path ch => "field path '" ++ path ++ "' contains invalid character '" ++ ch.toString ++ "'"

end FieldPathError

namespace FieldPath

def root : FieldPath := { segments := [] }

def text (p : FieldPath) : String :=
  if p.segments = [] then "." else String.join (p.segments.map ("." ++ ·))

/-- What is wrong with the first segment, counted from `position`, that is not well formed. -/
def firstDefect (path : String) : (position : Nat) → List String → Option FieldPathError
  | _, [] => none
  | position, s :: rest =>
    if s.toList = [] then some (.emptySegment path position)
    else match s.toList.find? (!isSegmentChar ·) with
      | some ch => some (.invalidCharacter path ch)
      | none => firstDefect path (position + 1) rest

theorem all_isSegment_of_firstDefect {path : String} {position : Nat} {segments : List String}
    (h : firstDefect path position segments = none) : segments.all isSegment = true := by
  induction segments generalizing position with
  | nil => rfl
  | cons s rest ih =>
    unfold firstDefect at h
    split at h
    · simp at h
    · next hne =>
      split at h
      · simp at h
      · next hs =>
        simp only [List.find?_eq_none] at hs
        simp only [List.all_cons, Bool.and_eq_true]
        refine ⟨?_, ih h⟩
        simp only [isSegment, Bool.and_eq_true, List.all_eq_true]
        exact ⟨by simpa using hne, fun c hc => by simpa using hs c hc⟩

/-- The path with the given segments, unless one of them is not well formed. -/
def ofSegments (path : String) (segments : List String) : Except FieldPathError FieldPath :=
  match h : firstDefect path 0 segments with
  | some e => .error e
  | none => .ok ⟨segments, all_isSegment_of_firstDefect h⟩

def parse (s : String) : Except FieldPathError FieldPath :=
  match s.toList with
  | ['.'] => .ok root
  | '.' :: rest => ofSegments s ((Text.splitAt '.' rest).map String.ofList)
  | _ => .error (.missingLeadingDot s)

/-- Joins names with dots and reads the result as a path, so a dot inside a name separates segments. -/
def join (names : List String) : Except FieldPathError FieldPath :=
  let joined := String.join (names.map ("." ++ ·))
  parse (if joined.toList = [] then "." else joined)

/-- The index that a segment denotes: decimal digits of a number below 2^64. -/
def index? (segment : String) : Option Nat := Text.readBelow? UInt64.size segment.toList

def step? (segment : String) : Json → Option Json
  | .obj members => Entries.find? segment members
  | .arr items => index? segment >>= (items[·]?)
  | _ => none

def walk? : List String → Json → Option Json
  | [], v => some v
  | s :: rest, v => step? s v >>= walk? rest

/-- The value at the end of a path, if there is one other than `null`. -/
def lookup (p : FieldPath) (v : Json) : Option Json :=
  match walk? p.segments v with
  | some .null => none
  | found => found

end FieldPath

end Preflight

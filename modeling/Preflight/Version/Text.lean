import Preflight.Version.Basic
import Preflight.Text.Blank
import Preflight.Text.Split

/-! # The text of a version
`Version.text` writes a version, `Version.parse?` reads exactly what it writes, and `Version.parseLenient?` also
accepts white space around the text and one letter `v` in front. -/
namespace Preflight.Version

def dotted (identifiers : List String) : List Char := Text.join '.' (identifiers.map String.toList)

def chars (v : Version) : List Char :=
  Text.numeral v.major.toNat ++ '.' :: (Text.numeral v.minor.toNat ++ '.' :: (Text.numeral v.patch.toNat ++
    ((if v.pre = [] then [] else '-' :: dotted v.pre) ++ (if v.build = [] then [] else '+' :: dotted v.build))))

def text (v : Version) : String := String.ofList v.chars

/-- The pre-release, as it stands in the text; empty if there is none. -/
def preText (v : Version) : String := String.ofList (dotted v.pre)

def buildText (v : Version) : String := String.ofList (dotted v.build)

def takeNumber? (s : List Char) : Option (UInt64 × List Char) :=
  let digits := s.takeWhile Char.isDigit
  if Text.isCanonical digits ∧ Text.numeralValue digits < UInt64.size then
    some (UInt64.ofNat (Text.numeralValue digits), s.dropWhile Char.isDigit)
  else none

def takeChar? (c : Char) : List Char → Option (List Char)
  | d :: s => if d = c then some s else none
  | [] => none

/-- The three numbers and what follows them. -/
def takeCore? (s : List Char) : Option ((UInt64 × UInt64 × UInt64) × List Char) := do
  let (major, s) ← takeNumber? s
  let s ← takeChar? '.' s
  let (minor, s) ← takeNumber? s
  let s ← takeChar? '.' s
  let (patch, s) ← takeNumber? s
  return ((major, minor, patch), s)

def identifiersOf (s : List Char) : List String := (Text.splitAt '.' s).map String.ofList

/-- The pre-release part, if the text has one, up to a plus sign. -/
def takePre : List Char → List String × List Char
  | '-' :: s => (identifiersOf (s.takeWhile (· ≠ '+')), s.dropWhile (· ≠ '+'))
  | s => ([], s)

/-- The build part: nothing, or everything after a plus sign. -/
def readBuild? : List Char → Option (List String)
  | [] => some []
  | '+' :: s => some (identifiersOf s)
  | _ => none

def parseChars? (s : List Char) : Option Version := do
  let ((major, minor, patch), s) ← takeCore? s
  let pre := (takePre s).1
  let build ← readBuild? (takePre s).2
  if h : pre.all isPreIdentifier = true ∧ build.all isBuildIdentifier = true then
    return { major, minor, patch, pre, build, pre_valid := h.1, build_valid := h.2 }
  none

def parse? (s : String) : Option Version := parseChars? s.toList

def dropLetter : List Char → List Char
  | 'v' :: s => s
  | s => s

/-- One letter is dropped at most, and what begins with a digit begins with none. -/
theorem dropLetter_eq_iff {s rest : List Char} {digit : Char} (h : digit.isDigit = true) :
    dropLetter s = digit :: rest ↔ s = digit :: rest ∨ s = 'v' :: digit :: rest := by
  unfold dropLetter
  split
  · next s =>
    refine ⟨fun hs => .inr (congrArg ('v' :: ·) hs), ?_⟩
    rintro (hs | hs)
    · cases hs
      cases h
    · exact List.tail_eq_of_cons_eq hs
  · next hletter => exact ⟨.inl, fun hs => hs.resolve_right (hletter (digit :: rest))⟩

/-- Reads a version between white space, with or without a letter `v` in front of it. -/
def parseLenient? (s : String) : Option Version := parseChars? (dropLetter (Text.trim s.toList))

end Preflight.Version

import Preflight.Text.Numeral

/-! # Semantic versions
Three 64-bit numbers, a list of pre-release identifiers and a list of build identifiers, with the order in
which a pre-release stands below its release and build metadata above the version without it. -/
namespace Preflight

namespace Version

/-- ASCII letters, digits and the hyphen. -/
def isIdentifierChar (c : Char) : Bool := c.isAlphanum || c = '-'

def isNumeric (s : String) : Bool := s.toList.all Char.isDigit

/-- A build identifier: any non-empty run of identifier characters. -/
def isBuildIdentifier (s : String) : Bool := !s.toList.isEmpty && s.toList.all isIdentifierChar

/-- A pre-release identifier: as for builds, but a number has no needless zeros in front. -/
def isPreIdentifier (s : String) : Bool :=
  isBuildIdentifier s && (!isNumeric s || Text.isCanonical s.toList)

end Version

structure Version where
  major : UInt64
  minor : UInt64
  patch : UInt64
  pre : List String := []
  build : List String := []
  pre_valid : pre.all Version.isPreIdentifier = true := by rfl
  build_valid : build.all Version.isBuildIdentifier = true := by rfl
  deriving DecidableEq

namespace Version

/-- Numbers compare by size, which for canonical numerals is by length and then digit by digit, and stand below
identifiers with letters, which compare character by character. -/
def comparePreIdentifier (a b : String) : Ordering :=
  match isNumeric a, isNumeric b with
  | false, true => .gt
  | true, false => .lt
  | false, false => compare a b
  | true, true => (compare a.toList.length b.toList.length).then (compare a b)

/-- As for pre-releases; of two numerals with one value the one with fewer zeros in front is the lower. -/
def compareBuildIdentifier (a b : String) : Ordering :=
  match isNumeric a, isNumeric b with
  | false, true => .gt
  | true, false => .lt
  | false, false => compare a b
  | true, true =>
    (compare (Text.numeralValue a.toList) (Text.numeralValue b.toList)).then
      (compare a.toList.length b.toList.length)

/-- Element by element; a list that ends first is the lower. -/
def compareLists (cmp : String → String → Ordering) : List String → List String → Ordering
  | [], [] => .eq
  | [], _ :: _ => .lt
  | _ :: _, [] => .gt
  | a :: as, b :: bs => (cmp a b).then (compareLists cmp as bs)

/-- Having no pre-release is above having one. -/
def comparePre : List String → List String → Ordering
  | [], [] => .eq
  | [], _ :: _ => .gt
  | _ :: _, [] => .lt
  | as, bs => compareLists comparePreIdentifier as bs

def compareBuild (as bs : List String) : Ordering := compareLists compareBuildIdentifier as bs

def order (a b : Version) : Ordering :=
  (compare a.major b.major).then <| (compare a.minor b.minor).then <| (compare a.patch b.patch).then <|
    (comparePre a.pre b.pre).then (compareBuild a.build b.build)

instance : Ord Version := ⟨order⟩

/-- The release `major.minor.0`. -/
def ofMinor (major minor : UInt64) : Version := { major, minor, patch := 0 }

/-- Whether a version that may be unknown is `major.minor.0` or above. An unknown one never is. -/
def atLeast (version : Option Version) (major minor : UInt64) : Bool :=
  match version with
  | some v => order v (ofMinor major minor) != .lt
  | none => false

/-- Whether both versions are known and their majors are the given ones. -/
def upgradeBetween (source destination : Option Version) (sourceMajor destinationMajor : UInt64) : Bool :=
  match source, destination with
  | some a, some b => a.major == sourceMajor && b.major == destinationMajor
  | _, _ => false

def upgrade2To3 (source destination : Option Version) : Bool := upgradeBetween source destination 2 3

end Version

end Preflight

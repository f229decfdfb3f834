import Preflight.Finding.Condition
import Preflight.Version.Text
import Preflight.Settings.SkipPattern

/-! # Settings of a run
Which version to check the upgrade to, how many checks to evaluate at once, which checks to leave out, and whose
conditions to give another impact. -/
namespace Preflight

structure Settings where
  targetVersion : Option Version := none
  concurrency : UInt64 := 4
  skip : List String := []
  overrides : Dictionary Impact := Dictionary.empty
  deriving DecidableEq

namespace Settings

def isSkipped (s : Settings) (checkId : String) : Bool := s.skip.any (SkipPattern.covers · checkId)

/-- The impact that the conditions of a check get in place of their own. -/
def override? (s : Settings) (checkId : String) : Option Impact := s.overrides.find? checkId

def setOverride (s : Settings) (checkId : String) (impact : Impact) : Settings :=
  { s with overrides := s.overrides.insert checkId impact }

/-- The number of checks in flight at once; at least one, also where the settings say none. -/
def workers (s : Settings) : Nat := max 1 s.concurrency.toNat

def toJson (s : Settings) : Json :=
  .obj (Json.optionalMember "target_version" (fun v => .str v.text) s.targetVersion ++
    [("concurrency", .int s.concurrency.toNat), ("checks", .obj [("skip", Json.strings s.skip)]),
      ("impact", .obj [("overrides", Json.ofDictionary (fun i => .str i.name) s.overrides)])])

def versionOfJson : Json → Decoded Version
  | .str s => match Version.parse? s with
    | some v => .ok v
    | none => .error (.invalidValue "not a version")
  | v => .error (.invalidType v "a version")

def ofJson (d : Dialect) : Json → Decoded Settings :=
  Json.asRecord d "Config" ["target_version", "concurrency", "checks", "impact"] fun s => do
    let targetVersion ← s.defaulted "target_version" (Json.asOption versionOfJson) none
    let concurrency ← s.defaulted "concurrency" (fun v => UInt64.ofNat <$> Json.asNatBelow UInt64.size v) 4
    let skip ← s.defaulted "checks" (Json.asRecord d "CheckRules" ["skip"] fun s =>
      s.defaulted "skip" (Json.asArray Json.asString) []) []
    let overrides ← s.defaulted "impact" (Json.asRecord d "ImpactOverrides" ["overrides"] fun s =>
      s.defaulted "overrides" (Json.asDictionary (Impact.ofJson d)) Dictionary.empty) Dictionary.empty
    return { targetVersion, concurrency, skip, overrides }

end Settings

end Preflight

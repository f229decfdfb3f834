import Preflight.Version.Text

/-! # Upgrades
The versions between which an installation is checked, either of which may be unknown. -/
namespace Preflight

structure Upgrade where
  current : Option Version := none
  target : Option Version := none
  debug : Bool := false
  deriving DecidableEq

namespace Upgrade

def is2To3 (u : Upgrade) : Bool := Version.upgrade2To3 u.current u.target

def targetLabel (u : Upgrade) : String := (u.target.map Version.text).getD "unknown"

/-- A version, part by part; the identifiers only where there are any. -/
def versionText (v : Version) : String :=
  "Version \x7b major: " ++ toString v.major.toNat ++ ", minor: " ++ toString v.minor.toNat ++
    ", patch: " ++ toString v.patch.toNat ++
    (if v.pre = [] then "" else ", pre: Prerelease(\"" ++ v.preText ++ "\")") ++
    (if v.build = [] then "" else ", build: BuildMetadata(\"" ++ v.buildText ++ "\")") ++ " \x7d"

def optionalVersionText : Option Version → String
  | some v => "Some(" ++ versionText v ++ ")"
  | none => "None"

/-- An upgrade of the cluster that a client gives access to, field by field. -/
def text (u : Upgrade) (client : String) : String :=
  "Target \x7b client: \"" ++ client ++ "\", current_version: " ++ optionalVersionText u.current ++
    ", target_version: " ++ optionalVersionText u.target ++ ", debug: " ++ toString u.debug ++ " \x7d"

end Upgrade

end Preflight

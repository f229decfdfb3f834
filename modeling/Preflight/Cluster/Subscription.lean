import Preflight.Json.Decode
import Preflight.Version.Text

/-! # Operator subscriptions
What the lifecycle manager of a cluster knows of an installed operator. The version is read off the name of the
installed release, such as `servicemeshoperator.v2.6.1`. -/
namespace Preflight

structure Subscription where
  name : String
  namespaceName : String
  package : String := ""
  /-- Empty if the subscription follows no channel. -/
  channel : String := ""
  installedRelease : Option String := none
  deriving DecidableEq

namespace Subscription

def startsWithDigit : List Char → Bool
  | c :: _ => c.isDigit
  | [] => false

/-- The text behind the first dot that a version follows: a digit, or a `v` and a digit. -/
def versionSuffix? : List Char → Option (List Char)
  | [] => none
  | c :: s =>
    if c = '.' ∧ startsWithDigit (Version.dropLetter s) then some (Version.dropLetter s) else versionSuffix? s

/-- The version in the name of the installed release: all of the name if no version can be told apart in it, and
the empty text if nothing is installed. -/
def installedVersion (s : Subscription) : String :=
  match s.installedRelease with
  | none => ""
  | some release => ((versionSuffix? release.toList).map String.ofList).getD release

def toJson (s : Subscription) : Json :=
  .obj ([("name", .str s.name), ("namespace", .str s.namespaceName), ("package", .str s.package),
    ("channel", .str s.channel)] ++ Json.optionalMember "installedCsv" .str s.installedRelease)

def ofJson (d : Dialect) : Json → Decoded Subscription :=
  Json.asRecord d "Subscription" ["name", "namespace", "package", "channel", "installedCsv"] fun s => do
    let name ← s.required "name" Json.asString
    let namespaceName ← s.required "namespace" Json.asString
    let package ← s.defaulted "package" Json.asString ""
    let channel ← s.defaulted "channel" Json.asString ""
    let installedRelease ← s.defaulted "installedCsv" (Json.asOption Json.asString) none
    return { name, namespaceName, package, channel, installedRelease }

end Subscription

end Preflight

import Preflight.Settings.Basic
import Preflight.Toml.Document

/-! # The settings file
Settings are kept as a TOML document. `Settings.parse` reads one and refuses settings under which no check could
run; `Settings.textIn?` writes one, which is impossible for a concurrency beyond the integers of the format. -/
namespace Preflight

inductive SettingsError where
  | unreadable
  | malformed
  | unwritable
  | noConcurrency
  deriving DecidableEq

namespace SettingsError

/-- The message of the one error that is a rule of the settings and not of the format or the file system. -/
def message? : SettingsError → Option String
  | .noConcurrency => some "Invalid config: concurrency must be at least 1"
  | _ => none

end SettingsError

/-- What is found under the name of a file. -/
inductive FileContents where
  | missing
  | bytes (contents : ByteArray)

/-- A file in a directory that may not exist. -/
structure File where
  directoryExists : Bool
  contents : FileContents := .missing

def File.write (document : String) : EStateM SettingsError File Unit := do
  let file ← get
  if file.directoryExists then set { file with contents := .bytes document.toUTF8 } else throw .unreadable

namespace Settings

def validate (s : Settings) : Except SettingsError Settings :=
  if s.concurrency = 0 then .error .noConcurrency else .ok s

def parse (document : String) : Except SettingsError Settings :=
  match Toml.parse? document with
  | none => .error .malformed
  | some value => match ofJson .toml value with
    | .error _ => .error .malformed
    | .ok s => s.validate

/-- Reads settings from a file, which has to be there and to hold UTF-8. -/
def load : FileContents → Except SettingsError Settings
  | .missing => .error .unreadable
  | .bytes contents => match String.fromUTF8? contents with
    | some document => parse document
    | none => .error .unreadable

def entryLine (key value : List Char) : List Char := key ++ " = ".toList ++ value ++ ['\n']

/-- An array of strings: on one line with at most one element, otherwise an element a line. -/
def arrayChars : List String → List Char
  | [] => ['[', ']']
  | [s] => '[' :: Toml.quote s.toList ++ [']']
  | ss => "[\n".toList ++ ss.flatMap (fun s => "    ".toList ++ Toml.quote s.toList ++ [',', '\n']) ++ [']']

/-- The document, with the overrides in the order in which they are come upon. -/
def charsIn (s : Settings) (overrides : List (String × Impact)) : List Char :=
  (match s.targetVersion with
    | some v => entryLine "target_version".toList (Toml.quote v.text.toList)
    | none => []) ++
  entryLine "concurrency".toList (Text.numeral s.concurrency.toNat) ++
  "\n[checks]\n".toList ++ entryLine "skip".toList (arrayChars s.skip) ++
  "\n[impact.overrides]\n".toList ++
  overrides.flatMap fun e => entryLine (Toml.quoteKey e.1.toList) (Toml.quote e.2.name.toList)

/-- Writes the document that `parse` reads the settings back from. -/
def textIn? (s : Settings) (overrides : List (String × Impact)) : Except SettingsError String :=
  if s.concurrency.toNat < Toml.integerBound then .ok (String.ofList (s.charsIn overrides)) else .error .unwritable

/-- Saves to a file. The settings are written out before the file is touched. -/
def saveTo (s : Settings) (overrides : List (String × Impact)) : EStateM SettingsError File Unit := do
  match s.textIn? overrides with
  | .ok document => File.write document
  | .error e => throw e

/-- What a file that was not there holds once the settings are saved to it, with the overrides in key order. -/
def save (s : Settings) (directoryExists : Bool) : Except SettingsError FileContents :=
  match (s.saveTo s.overrides.entries).run { directoryExists } with
  | .ok _ file => .ok file.contents
  | .error e _ => .error e

end Settings

end Preflight

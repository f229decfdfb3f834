import Preflight.Check.Basic
import Preflight.Settings.Basic

/-! # The installed release
The platform records its release in the initialization singleton. A release that is missing or unreadable is
unknown; only a read that fails is a fault. -/
namespace Preflight

namespace Release

def path : FieldPath := { segments := ["status", "release", "version"], valid := by decide }

/-- The version in the singleton, if it is a text that names one. -/
def version? (initialization : Object) : Option Version :=
  initialization.get? path >>= Json.string? >>= Version.parseLenient?

def detect : Program (Option Version) := do
  return (← Program.singleton .initialization) >>= version?

end Release

/-- The upgrade from the installed release to the version in the settings. -/
def Upgrade.detect (s : Settings) : Program Upgrade := do
  return { current := ← Release.detect, target := s.targetVersion }

end Preflight

import Preflight.Check.Program
import Preflight.Check.Upgrade
import Preflight.Finding.Basic

/-! # Checks
A check has a description of itself, tells whether it applies to an upgrade, and a program that evaluates it.
It keeps nothing between two evaluations. -/
namespace Preflight

structure CheckMeta where
  /-- Unique among the checks of a catalog. -/
  id : String
  name : String
  description : String := ""
  group : CheckGroup
  /-- The component, kind of resource or operator that the check inspects. -/
  kind : String
  checkType : String
  remediation : Option String := none
  deriving DecidableEq

namespace CheckMeta

/-- The finding that an evaluation begins with. -/
def newFinding (m : CheckMeta) : Finding :=
  { group := m.group, kind := m.kind, name := m.checkType, description := m.description,
    remediation := m.remediation }

end CheckMeta

structure Check where
  about : CheckMeta
  applies : Upgrade → Except Fault Bool
  evaluate : Upgrade → Program Finding

/-- Decides from the versions alone whether a check applies. -/
abbrev Gate := Upgrade → Bool

namespace Gate

def always : Gate := fun _ => true

def upgrade2To3 : Gate := Upgrade.is2To3

/-- Whether the installed version is known and at least `major.minor`. -/
def installedAtLeast (major minor : UInt64) : Gate := fun u => Version.atLeast u.current major minor

end Gate

namespace Annotation

/-- The keys of the annotations that the protocols put on findings. -/
def managementState : String := "component.kompat.io/management-state"
def applicationsNamespace : String := "component.kompat.io/applications-namespace"
def targetVersion : String := "check.kompat.io/target-version"
def workloadCount : String := "workload.kompat.io/count"
def installedVersion : String := "operator.kompat.io/installed-version"

end Annotation

/-- The finding that the protocols begin with: that of the check, bearing the target version. -/
def CheckMeta.stampedFinding (m : CheckMeta) (u : Upgrade) : Finding :=
  m.newFinding.annotate Annotation.targetVersion u.targetLabel

/-- States that the cluster has no object of a type. -/
def Condition.resourceNotFound (type : ResourceType) : Condition :=
  { type := available, status := .false, reason := .resourceNotFound,
    message := type.kind ++ " not found on the cluster" }

end Preflight

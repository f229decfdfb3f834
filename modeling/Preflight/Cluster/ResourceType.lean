import Preflight.Finding.Basic

/-! # Types of resources
A type is known by its API group, version, kind and the plural under which it is served. The group of the core
types has the empty name. -/
namespace Preflight

structure ResourceType where
  group : String
  version : String
  kind : String
  plural : String
  deriving DecidableEq, Inhabited

namespace ResourceType

/-- Core types are served by every cluster. -/
def isCore (t : ResourceType) : Bool := t.group = ""

def apiVersion (t : ResourceType) : String := if t.isCore then t.version else t.group ++ "/" ++ t.version

/-- The plural, qualified by the group outside the core. -/
def text (t : ResourceType) : String := if t.isCore then t.plural else t.plural ++ "." ++ t.group

def typeMeta (t : ResourceType) : TypeMeta := ⟨t.apiVersion, t.kind⟩

/-- The singleton that holds the management states of the components. -/
def dataScienceCluster : ResourceType :=
  ⟨"datasciencecluster.opendatahub.io", "v1", "DataScienceCluster", "datascienceclusters"⟩

/-- The singleton that holds the settings and the installed release of the platform. -/
def initialization : ResourceType :=
  ⟨"dscinitialization.opendatahub.io", "v1", "DSCInitialization", "dscinitializations"⟩

def inferenceService : ResourceType := ⟨"serving.kserve.io", "v1beta1", "InferenceService", "inferenceservices"⟩

def notebook : ResourceType := ⟨"kubeflow.org", "v1", "Notebook", "notebooks"⟩

def configMap : ResourceType := ⟨"", "v1", "ConfigMap", "configmaps"⟩

end ResourceType

end Preflight

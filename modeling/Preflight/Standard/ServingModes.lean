import Preflight.Check.Component

/-! # Serving modes
The policy on the two ways of serving models that version 3 no longer has. It reads both management states out
of the singleton as a record, so that a value of the wrong form on the way to one of them is an error, and
states a condition for each. -/
namespace Preflight.ServingModes

/-- A component of which only the management state matters. Absent, it has no state. -/
def managedComponent : Json → Decoded (Option ManagementState) :=
  Json.asRecord .json "ManagedComponent" ["managementState"] fun s =>
    s.optional "managementState" (ManagementState.ofJson .json)

def kserveComponent : Json → Decoded (Option ManagementState) :=
  Json.asRecord .json "KServeComponent" ["serving"] fun s => s.defaulted "serving" managedComponent none

structure States where
  serverless : Option ManagementState := none
  modelMesh : Option ManagementState := none

def components : Json → Decoded States :=
  Json.asRecord .json "ServingModeStates" ["kserve", "modelmeshserving"] fun s => do
    let serverless ← s.defaulted "kserve" kserveComponent none
    let modelMesh ← s.defaulted "modelmeshserving" managedComponent none
    return { serverless, modelMesh }

def spec : Json → Decoded States :=
  Json.asRecord .json "ServingComponents" ["components"] fun s => s.defaulted "components" components {}

def states : Json → Decoded States :=
  Json.asRecord .json "ServingSpec" ["spec"] fun s => s.defaulted "spec" spec {}

/-- The condition on a mode in a state; a mode without a state is removed. -/
def modeCondition (type mode : String) (state : Option ManagementState) : Condition :=
  let state := state.getD .removed
  if state = .managed then
    { type, status := .false, reason := .deprecated, impact := .blocking,
      message := mode ++ " is Managed but is not supported in 3.x; migrate deployments before upgrading" }
  else { type, status := .true, reason := .requirementsMet, message := mode ++ " is " ++ state.name }

def serverlessMode : String := "ServerlessMode"

def modelMeshMode : String := "ModelMeshMode"

def policy (view : ComponentView) (finding : Finding) : Program Finding :=
  match states view.singleton.body with
  | .error e => .fail (.undecodable ("DataScienceCluster " ++ Item.name view.singleton) e)
  | .ok states => .done ((finding.state (modeCondition serverlessMode "KServe Serverless" states.serverless)).state
      (modeCondition modelMeshMode "ModelMesh" states.modelMesh))

end Preflight.ServingModes

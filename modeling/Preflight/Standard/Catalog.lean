import Preflight.Check.Catalog
import Preflight.Check.Operator
import Preflight.Check.Workload
import Preflight.Standard.ServingModes

/-! # The standard catalog
The checks for the upgrade from version 2 to version 3, in the order in which a report shows them. -/
namespace Preflight.Standard

/-- A component check of a component with a plain name. -/
def component (about : CheckMeta) (name : String) (states : List ManagementState)
    (policy : ComponentView → Finding → Program Finding)
    (valid : FieldPath.isSegment name = true) : ComponentCheck :=
  { about, component := name, requiredStates := some states, policy, gate := Gate.upgrade2To3
    statePath :=
      { segments := ["spec", "components", name, "managementState"]
        valid := by simp only [List.all_cons, valid, List.all_nil]; decide } }

def servingModes : ComponentCheck :=
  { component
      { id := "components.kserve.serverless-removal", name := "KServe Serverless removal", group := .component
        kind := "kserve", checkType := "serverless-removal"
        description := "KServe Serverless and ModelMesh deployment modes are removed in 3.x"
        remediation :=
          some "Migrate InferenceServices to RawDeployment mode and set serving.managementState to Removed" }
      "kserve" [.managed] ServingModes.policy (by decide) with needsNamespace := true }

/-- A component that is removed in the target version. -/
def removedComponent (view : ComponentView) (finding : Finding) : Program Finding :=
  .done (finding.state
    { type := Condition.compatible, status := .false, reason := .versionIncompatible, impact := .blocking
      message := view.component ++ " is " ++ view.state.name ++ " but is removed in " ++ view.upgrade.targetLabel })

def codeFlare : ComponentCheck :=
  component
    { id := "components.codeflare.removal", name := "CodeFlare removal", group := .component
      kind := "codeflare", checkType := "removal"
      description := "CodeFlare is removed in 3.x"
      remediation := some "Set codeflare managementState to Removed before upgrading" }
    "codeflare" [.managed, .unmanaged] removedComponent (by decide)

/-- One condition on the number of items, which fails with the given impact if there are any. -/
def countItems {α : Type} (impact : Impact) (what : String) (view : WorkloadView α) (finding : Finding) :
    Program Finding :=
  .done (finding.state
    (if view.items.length = 0 then
      { type := Condition.validated, status := .true, reason := .noWorkloadsImpacted,
        message := "No " ++ what ++ " found" }
    else
      { type := Condition.validated, status := .false, reason := .workloadsImpacted, impact
        message := "Found " ++ toString view.items.length ++ " " ++ what }))

/-- The annotation of an inference service that chooses its way of deployment. -/
def deploymentMode : String := "serving.kserve.io/deploymentMode"

def modelMeshServices : WorkloadCheck Object where
  about :=
    { id := "workloads.inferenceservice.modelmesh", name := "ModelMesh InferenceServices", group := .workload
      kind := "inferenceservice", checkType := "modelmesh"
      description := "InferenceServices deployed with ModelMesh stop serving after the upgrade"
      remediation := some "Redeploy the listed InferenceServices in RawDeployment mode" }
  resource := .inferenceService
  gate := Gate.upgrade2To3
  filter service := .ok (Item.annotationOf service deploymentMode = some "ModelMesh")
  policy := countItems .blocking "InferenceServices using ModelMesh"

def notebooks : WorkloadCheck PartialObject where
  about :=
    { id := "workloads.notebook.inventory", name := "Notebook inventory", group := .workload
      kind := "notebook", checkType := "inventory"
      description := "Notebooks are restarted on their new images during the upgrade"
      remediation := some "Save work in running notebooks before upgrading" }
  resource := .notebook
  gate := Gate.upgrade2To3
  policy := countItems .advisory "notebooks that will be restarted"

/-- The second version of the service mesh must not be there. -/
def serviceMeshCondition (found : Bool) (version : String) : Condition :=
  if found then
    { type := Condition.compatible, status := .false, reason := .versionIncompatible, impact := .blocking
      message := "Service Mesh v2 (" ++ version ++ ") is installed and is not supported in 3.x" }
  else
    { type := Condition.compatible, status := .true, reason := .versionCompatible
      message := "Service Mesh v2 is not installed" }

def serviceMesh : OperatorCheck where
  about :=
    { id := "dependencies.servicemesh.v2", name := "Service Mesh v2", group := .dependency
      kind := "servicemeshoperator", checkType := "deprecation"
      description := "Service Mesh v2 is not supported in 3.x"
      remediation := some "Migrate to Service Mesh v3 and remove the v2 operator subscription" }
  channels := ["stable", "v2.x"]
  condition found version := .ok (serviceMeshCondition found version)
  gate := Gate.upgrade2To3

def authorino : OperatorCheck :=
  { OperatorCheck.forPresence
      { id := "dependencies.authorino.presence", name := "Authorino operator", group := .dependency
        kind := "authorino-operator", checkType := "presence"
        description := "Authorino is required for authenticated model serving"
        remediation := some "Install the Authorino operator from OperatorHub" } with
    gate := Gate.installedAtLeast 2 16 }

def checks : List Check :=
  [servingModes.toCheck, codeFlare.toCheck, modelMeshServices.toCheck, notebooks.toCheck, serviceMesh.toCheck,
    authorino.toCheck]

def catalog : Catalog where
  checks := checks
  distinct := by decide

end Preflight.Standard

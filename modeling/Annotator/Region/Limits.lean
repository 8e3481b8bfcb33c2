/-! Limits bound how much a region may show. -/

namespace Annotator

/-- The largest tooltip and menu a region may carry. -/
structure Limits where
  /-- The number of characters of a tooltip that are kept. -/
  tooltipChars : Nat := 100
  /-- The number of menu entries that are kept. -/
  menuEntries : Nat := 25
  deriving DecidableEq, Repr, Inhabited

end Annotator

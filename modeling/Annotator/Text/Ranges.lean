/-! Character classes of Unicode are given by tables of inclusive code point ranges. -/

namespace Annotator

/-- A code point belongs to a table when some range encloses it. -/
def inRanges (ranges : Array (Nat × Nat)) (codePoint : Nat) : Bool :=
  -- Both ends of a range belong to it.
  ranges.any fun range => range.1 ≤ codePoint && codePoint ≤ range.2

end Annotator

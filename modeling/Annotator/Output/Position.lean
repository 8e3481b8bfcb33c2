/-! A position addresses a byte within one row of a command's output. -/

namespace Annotator

/-- A row with a byte offset in it, both counted from zero. -/
structure Position where
  /-- The row, relative to the first row of the command's output. -/
  row : Nat
  /-- The byte offset within the row. -/
  offset : Nat
  deriving DecidableEq, Repr, Inhabited

namespace Position

/-- Positions are ordered by row first and by offset within a row. -/
protected def le (left right : Position) : Prop :=
  -- This is the lexicographic order.
  left.row < right.row ∨ left.row = right.row ∧ left.offset ≤ right.offset

instance : LE Position := ⟨Position.le⟩

/-- The order of two positions can be computed. -/
instance decidableLE (left right : Position) : Decidable (left ≤ right) :=
  -- Both alternatives compare natural numbers.
  inferInstanceAs (Decidable (_ ∨ _))

end Position

end Annotator

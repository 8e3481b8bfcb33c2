import Annotator.Output.Position
import Annotator.Text.Bytes

/-! A logical line is one line of output, however many rows the terminal broke it into. -/

namespace Annotator

/-- A logical line is a nonempty run of consecutive rows. -/
structure LogicalLine where
  /-- The number of its first row. -/
  startRow : Nat
  /-- The text of its first row. -/
  first : String
  /-- The texts of the rows it continues on. -/
  rest : List String := []
  deriving DecidableEq, Repr, Inhabited

namespace LogicalLine

/-- The texts of all rows of a line, in order. -/
def rows (line : LogicalLine) : List String :=
  -- There is always a first row.
  line.first :: line.rest

/-- The text of a line joins the texts of its rows. -/
def text (line : LogicalLine) : String :=
  -- The terminal breaks a line without adding characters.
  String.ofList (line.rows.flatMap String.toList)

/-- The number of the last row of a line. -/
def endRow (line : LogicalLine) : Nat :=
  -- Each continuation takes one more row.
  line.startRow + line.rest.length

/-- The byte length of a line. -/
def length (line : LogicalLine) : Nat :=
  -- Lengths add up over the rows.
  line.rows.foldr (fun row total => Text.size row + total) 0

/-- The length of a line is the size of its text. -/
theorem length_eq_size (line : LogicalLine) : line.length = Text.size line.text := by
  -- Byte lengths add up when the rows are joined one after the other.
  rw [length, text, Text.size_ofList]
  induction line.rows with
  | nil => rfl
  | cons row rest ih => simp [ih, Text.size_eq_byteLength row]

/-- The byte offsets at which continuation rows begin, behind a given start. -/
def breaksFrom (start : Nat) (row : String) : List String → List Nat
  -- Each row begins where the one before it ends.
  | [] => []
  | next :: rest => (start + Text.size row) :: breaksFrom (start + Text.size row) next rest

/-- The byte offsets at which the continuation rows of a line begin. -/
def breaks (line : LogicalLine) : List Nat :=
  -- The first row begins at zero and is not listed.
  breaksFrom 0 line.first line.rest

/-- The position of a byte offset counted from the start of a given row. -/
def positionFrom (number : Nat) (row : String) : List String → Nat → Position
  -- An offset at or past the end of a row belongs to the next row while there is one.
  | [], offset => ⟨number, offset⟩
  | next :: rest, offset =>
    if offset < Text.size row then ⟨number, offset⟩
    else positionFrom (number + 1) next rest (offset - Text.size row)

/-- The position of a byte offset of a line. -/
def position (line : LogicalLine) (offset : Nat) : Position :=
  -- Offsets past the end of the line continue on its last row.
  positionFrom line.startRow line.first line.rest offset

/-- A line extended by one continuation row. -/
def extend (line : LogicalLine) (row : String) : LogicalLine :=
  -- The new row follows the last one.
  { line with rest := line.rest ++ [row] }

end LogicalLine

end Annotator

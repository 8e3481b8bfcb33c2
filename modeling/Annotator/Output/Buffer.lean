import Annotator.Output.Line

/-! A line buffer joins rows that wrap into logical lines and numbers the rows as they arrive. -/

namespace Annotator

/-- The rows counted so far and the line they left unfinished. -/
structure LineBuffer where
  /-- The line whose last row wraps, if there is one. -/
  pending : Option LogicalLine := none
  /-- The number of rows received. -/
  rowsSeen : Nat := 0
  deriving DecidableEq, Repr, Inhabited

namespace LineBuffer

/-- The line that a row completes or continues. -/
def extended (buffer : LineBuffer) (row : String) : LogicalLine :=
  -- Without an unfinished line the row begins a new one under the next number.
  match buffer.pending with
  | some line => line.extend row
  | none => { startRow := buffer.rowsSeen, first := row }

/-- A row completes its line unless it wraps into the next row. -/
def push (buffer : LineBuffer) (row : String) (wraps : Bool) : Option LogicalLine × LineBuffer :=
  -- Either way the row is counted.
  let line := buffer.extended row
  if wraps then (none, { pending := some line, rowsSeen := buffer.rowsSeen + 1 })
  else (some line, { pending := none, rowsSeen := buffer.rowsSeen + 1 })

/-- Flushing completes an unfinished line as it stands. -/
def flush (buffer : LineBuffer) : Option LogicalLine × LineBuffer :=
  -- The count of rows is not affected.
  (buffer.pending, { buffer with pending := none })

/-- The lines of given rows, each with its wrapping, where the last row ends its line. -/
def lines (buffer : LineBuffer) : List (String × Bool) → List LogicalLine
  -- Rows are pushed in order and the rest is flushed.
  | [] => buffer.flush.1.toList
  | (row, wraps) :: rest =>
    let (line, next) := buffer.push row wraps
    line.toList ++ next.lines rest

end LineBuffer

end Annotator

import Annotator.Invocation
import Annotator.Output.Position
import Annotator.Region.Metadata

/-! A region is an identified span of a command's output with its metadata. -/

namespace Annotator

/-- The number by which a region is known. -/
structure RegionId where
  /-- Numbers are issued from one upwards and never twice. -/
  number : Nat
  deriving DecidableEq, Repr, Inhabited

/-- An identified span of output. -/
structure Region where
  /-- Its number. -/
  id : RegionId
  /-- The invocation whose output it marks. -/
  invocation : InvocationId
  /-- The name of the matcher that made it. -/
  matcher : String
  /-- Where it begins. -/
  start : Position
  /-- Where it ends, exclusively. -/
  stop : Position
  /-- What it shows and offers. -/
  metadata : Metadata
  deriving DecidableEq, Inhabited

namespace Region

/-- A region covers a row when part of that row lies between its ends. -/
def coversRow (region : Region) (row : Nat) : Bool :=
  -- A row at whose very start the region ends is covered only if it begins there too.
  region.start.row ≤ row && row ≤ region.stop.row &&
    (row < region.stop.row || 0 < region.stop.offset || region.start.row == region.stop.row)

end Region

/-- Why a region cannot be created. -/
inductive RegionError
  /-- A span is reversed, exceeds a line of the given length or splits a character. -/
  | invalidSpan (start stop length : Nat)
  /-- A position lies outside the given number of rows or splits a character. -/
  | invalidRow (row offset rows : Nat)
  /-- There is no line to which offsets could refer. -/
  | noCurrentLine
  /-- An action of the metadata is invalid. -/
  | invalidAction (error : ActionError)
  deriving DecidableEq, Repr

namespace RegionError

/-- The wording of a region error. -/
def message : RegionError → String
  -- Invalid actions speak for themselves.
  | .invalidSpan start stop length =>
    "invalid span " ++ toString start ++ ".." ++ toString stop ++
      " for line of length " ++ toString length
  | .invalidRow row offset rows =>
    "invalid position row " ++ toString row ++ " offset " ++ toString offset ++
      " (" ++ toString rows ++ " rows of output)"
  | .noCurrentLine => "no current line to attach a region to"
  | .invalidAction error => error.message

end RegionError

end Annotator

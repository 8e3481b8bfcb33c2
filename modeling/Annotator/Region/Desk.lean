import Annotator.Output.Line
import Annotator.Region.Table

/-! A desk is where one event of one matcher reserves numbers and creates regions. -/

namespace Annotator

/-- What an event is about, fixed while it lasts. -/
structure Scene where
  /-- The invocation whose output is marked. -/
  invocation : InvocationId
  /-- The name of the matcher that acts. -/
  matcher : String
  /-- The limits applied to what is created. -/
  limits : Limits
  /-- The rows received so far. -/
  rows : Array String
  /-- The current line, if the event is about one. -/
  line : Option LogicalLine
  deriving Inhabited

/-- What an event changes: the region table and a pending reservation. -/
structure Desk where
  /-- The region table. -/
  table : RegionTable
  /-- The number reserved for the next region of this event. -/
  reserved : Option RegionId := none
  deriving DecidableEq, Inhabited

namespace Desk

/-- A reservation stands until a region is created under it. -/
def reserve (desk : Desk) : RegionId × Desk :=
  -- Repeated requests give the same number.
  match desk.reserved with
  | some id => (id, desk)
  | none =>
    let (id, table) := desk.table.allocate
    (id, { table, reserved := some id })

/-- A reservation is used up by the next creation, which otherwise takes a fresh number. -/
def claim (desk : Desk) : RegionId × Desk :=
  -- Either way no reservation is left.
  match desk.reserved with
  | some id => (id, { desk with reserved := none })
  | none =>
    let (id, table) := desk.table.allocate
    (id, { table, reserved := none })

end Desk

namespace Scene

/-- A span of a text is sound when it is ordered, within the text and between characters. -/
def spanSound (text : String) (start stop : Nat) : Bool :=
  -- A boundary never exceeds the size of its text.
  start ≤ stop && stop ≤ Text.size text &&
    Text.isBoundaryOf text start && Text.isBoundaryOf text stop

/-- A position is within the output when it is a boundary of a received row. -/
def holds (scene : Scene) (position : Position) : Bool :=
  -- Rows that have not been received hold no position.
  match scene.rows[position.row]? with
  | some row => Text.isBoundaryOf row position.offset
  | none => false

/-- A region may end within the output or at the start of the row behind it. -/
def holdsEnd (scene : Scene) (position : Position) : Bool :=
  -- The row behind the output is where the next one would begin.
  scene.holds position || position == ⟨scene.rows.size, 0⟩

/-- A region between sound positions is stored once its metadata is valid. -/
def place (scene : Scene) (desk : Desk) (start stop : Position) (metadata : Metadata) :
    Except RegionError (RegionId × Desk) :=
  -- Limits apply only after every action has been checked.
  match metadata.validate with
  | .error error => .error (.invalidAction error)
  | .ok () =>
    let (id, claimed) := desk.claim
    let region : Region :=
      { id, invocation := scene.invocation, matcher := scene.matcher, start, stop
        metadata := metadata.limited scene.limits }
    .ok (id, { claimed with table := claimed.table.insert region })

/-- Creating on the current line addresses its bytes. -/
def createOnLine (scene : Scene) (desk : Desk) (start stop : Nat) (metadata : Metadata) :
    Except RegionError (RegionId × Desk) :=
  -- The offsets are mapped to the rows of the line.
  match scene.line with
  | none => .error .noCurrentLine
  | some line =>
    if spanSound line.text start stop then
      scene.place desk (line.position start) (line.position stop) metadata
    else .error (.invalidSpan start stop (Text.size line.text))

/-- The size of a row, or zero for a row that has not been received. -/
def rowSize (scene : Scene) (row : Nat) : Nat :=
  -- The row behind the output has no text yet.
  (scene.rows[row]?.map Text.size).getD 0

/-- Creating between positions addresses any row received so far. -/
def createAt (scene : Scene) (desk : Desk) (start stop : Position) (metadata : Metadata) :
    Except RegionError (RegionId × Desk) :=
  -- The start is checked before the end and both before their order.
  if !scene.holds start then .error (.invalidRow start.row start.offset scene.rows.size)
  else if !scene.holdsEnd stop then .error (.invalidRow stop.row stop.offset scene.rows.size)
  else if start ≤ stop then scene.place desk start stop metadata
  else .error (.invalidSpan start.offset stop.offset (scene.rowSize stop.row))

end Scene

end Annotator

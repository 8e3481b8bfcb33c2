import Annotator.Output.Buffer
import Annotator.Tracker.Slot

/-! A running invocation joins its rows to lines and hands them to its slots. -/

namespace Annotator

/-- An invocation whose output is being received. -/
structure Running where
  /-- The invocation as it was begun. -/
  invocation : Invocation
  /-- Its matchers in registration order. -/
  slots : List Slot := []
  /-- The rows on their way to lines. -/
  buffer : LineBuffer := {}
  /-- Every row received. -/
  rows : Array String := #[]
  /-- The lines retained for waiting matchers. -/
  lines : Array LogicalLine := #[]

namespace Running

/-- Some matcher still waits for the invocation to complete. -/
def hasWaiting (running : Running) : Bool :=
  -- Its lines must be retained for as long.
  running.slots.any (·.status == .waiting)

/-- A line goes to the active matchers and is retained for the waiting ones. -/
def deliver (id : InvocationId) (limits : Limits) (running : Running) (table : RegionTable)
    (line : LogicalLine) : Running × RegionTable × Journal :=
  -- Delivery follows the order of registration.
  let stage : Stage := { id, limits, rows := running.rows }
  let (slots, table, told) :=
    Slot.each (fun slot table => slot.deliver stage table line) running.slots table
  let delivered := { running with slots }
  let lines := if delivered.hasWaiting then delivered.lines.push line else delivered.lines
  ({ delivered with lines }, table, told)

/-- A line that may not have been completed is delivered if it was. -/
def deliverIfAny (id : InvocationId) (limits : Limits) (running : Running) (table : RegionTable) :
    Option LogicalLine → Running × RegionTable × Journal
  -- Without a line nothing happens.
  | none => (running, table, [])
  | some line => running.deliver id limits table line

/-- A row is recorded and delivered as soon as it completes a line. -/
def push (id : InvocationId) (limits : Limits) (running : Running) (table : RegionTable)
    (row : String) (wraps : Bool) : Running × RegionTable × Journal :=
  -- Matchers see the row among the received ones when its line arrives.
  let (line, buffer) := running.buffer.push row wraps
  { running with buffer, rows := running.rows.push row }.deliverIfAny id limits table line

/-- Completing an invocation flushes its last line and completes each matcher in turn. -/
def complete (id : InvocationId) (limits : Limits) (running : Running) (table : RegionTable)
    (exitCode : Int) (totalRows : Nat) : RegionTable × Journal :=
  -- The exit code becomes known only after the flushed line.
  let (line, buffer) := running.buffer.flush
  let (running, table, told) :=
    { running with buffer }.deliverIfAny id limits table line
  let stage : Stage := { id, limits, rows := running.rows }
  let invocation := { running.invocation with exitCode := some exitCode }
  let (_, table, toldLater) :=
    Slot.each (Slot.complete stage invocation running.lines.toList totalRows) running.slots table
  (table, told ++ toldLater)

end Running

end Annotator

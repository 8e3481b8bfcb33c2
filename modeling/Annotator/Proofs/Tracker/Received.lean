import Annotator.Proofs.Output.Wrapping
import Annotator.Proofs.Tracker.Scheduling

/-!
Rows that are received from one line break to the next deliver one line, and an invocation that is
carried out from its beginning to its completion receives all its rows.
-/

namespace Annotator

namespace Running

variable {id : InvocationId} {limits : Limits} {running : Running} {table : RegionTable}

/-- What a running invocation and the table come to when rows are pushed in order. -/
def receive (id : InvocationId) (limits : Limits) (running : Running) (table : RegionTable)
    (rows : List (String × Bool)) : Running × RegionTable :=
  -- What is told on the way is left out.
  rows.foldl (fun reached row =>
    let pushed := reached.1.push id limits reached.2 row.1 row.2
    (pushed.1, pushed.2.1)) (running, table)

/-- The first row is pushed before all others. -/
theorem receive_cons (row : String × Bool) (rows : List (String × Bool)) :
    running.receive id limits table (row :: rows) =
      let pushed := running.push id limits table row.1 row.2
      pushed.1.receive id limits pushed.2.1 rows :=
  -- The first row is pushed before the others.
  rfl

/-- Rows that are received in two groups are received as all of them are. -/
theorem receive_append (front back : List (String × Bool)) :
    running.receive id limits table (front ++ back) =
      let reached := running.receive id limits table front
      reached.1.receive id limits reached.2 back :=
  -- Rows are received from the left.
  List.foldl_append

/-- A row is recorded behind all others. -/
theorem push_rows (row : String) (wraps : Bool) :
    (running.push id limits table row wraps).1.rows = running.rows.push row := by
  -- Delivering a line leaves the rows.
  rw [push_eq]
  cases (running.buffer.push row wraps).1 with
  | none => rfl
  | some line => rfl

/-- As many rows are recorded as are received. -/
theorem receive_rows_size (id : InvocationId) (limits : Limits) (running : Running)
    (table : RegionTable) (rows : List (String × Bool)) :
    (running.receive id limits table rows).1.rows.size = running.rows.size + rows.length := by
  -- Induction on the rows, each of which is kept.
  induction rows generalizing running table with
  | nil => rfl
  | cons row rows ih =>
    rw [receive_cons, ih, push_rows, Array.size_push, List.length_cons]
    omega

/-- The rows up to the end of a line deliver it together with the rows received of it before. -/
theorem receive_rowsFrom (piece : String) (rest : List String) :
    running.receive id limits table (Cut.rowsFrom false piece rest) =
      let grown : Running := { running with
        buffer := { rowsSeen := running.buffer.rowsSeen + (rest.length + 1) }
        rows := running.rows ++ (piece :: rest).toArray }
      let begun := running.buffer.extended piece
      let delivered := grown.deliver id limits table { begun with rest := begun.rest ++ rest }
      (delivered.1, delivered.2.1) := by
  -- Each row that wraps only makes the unfinished line longer.
  induction rest generalizing piece running with
  | nil => simp [Cut.rowsFrom, receive, push_eq, LineBuffer.push, deliverIfAny]
  | cons next rest ih =>
    rw [Cut.rowsFrom, receive_cons]
    dsimp only
    rw [push_eq]
    simp only [LineBuffer.push, deliverIfAny, if_true]
    rw [ih]
    simp [LineBuffer.extended, LogicalLine.extend, Nat.add_comm, Nat.add_left_comm]

/-- The last row received did not wrap, and all rows have been counted. -/
def BetweenLines (running : Running) : Prop :=
  -- The next row begins a line.
  running.buffer = { rowsSeen := running.rows.size }

/-- The rows of a line as they are recorded when the line is complete. -/
def record (running : Running) (cut : Cut) : Running :=
  -- The line itself has not been delivered yet.
  { running with
    buffer := { rowsSeen := running.rows.size + (cut.rest.length + 1) }
    rows := running.rows ++ (cut.first :: cut.rest).toArray }

/-- The next line begins where the recorded rows end. -/
theorem record_between (running : Running) (cut : Cut) : (running.record cut).BetweenLines := by
  -- Nothing is pending behind a recorded line.
  simp [BetweenLines, record]

/-- The recorded rows end with the last row of the line. -/
theorem record_rows_size (running : Running) (cut : Cut) :
    (running.record cut).rows.size = (cut.line running.rows.size).endRow + 1 := by
  -- The pieces of the cut are the rows of its line.
  simp [record, Cut.line, LogicalLine.endRow, Nat.add_assoc]

/-- Between lines, the rows of a line deliver that line. -/
theorem receive_cut (between : running.BetweenLines) (cut : Cut) :
    running.receive id limits table (Cut.rowsFrom false cut.first cut.rest) =
      let delivered :=
        (running.record cut).deliver id limits table (cut.line running.rows.size)
      (delivered.1, delivered.2.1) := by
  -- The buffer holds nothing back before the line, so the rows complete just this one.
  have seen : running.buffer.rowsSeen = running.rows.size := congrArg LineBuffer.rowsSeen between
  have begun : running.buffer.extended cut.first =
      { startRow := running.rows.size, first := cut.first } := by
    rw [between]
    rfl
  rw [receive_rowsFrom, begun, seen]
  rfl

/-- Completing makes no difference between a last row that wraps and one that does not. -/
theorem complete_push (row : String) (wraps : Bool) (exitCode : Int) (totalRows : Nat) :
    let pushed := running.push id limits table row wraps
    let closed := running.push id limits table row false
    (pushed.1.complete id limits pushed.2.1 exitCode totalRows).1 =
      (closed.1.complete id limits closed.2.1 exitCode totalRows).1 := by
  -- The unfinished line is flushed over the same rows.
  cases wraps with
  | false => rfl
  | true => rfl

/-- Completing makes no difference how the very last row is marked. -/
theorem complete_receive (wraps : Bool) (cuts : List Cut) (exitCode : Int) (totalRows : Nat) :
    let reached := running.receive id limits table (Cut.rows wraps cuts)
    let closed := running.receive id limits table (Cut.rows false cuts)
    (reached.1.complete id limits reached.2 exitCode totalRows).1 =
      (closed.1.complete id limits closed.2 exitCode totalRows).1 := by
  -- The last line is delivered with its last row or when the invocation completes.
  cases cuts with
  | nil => rfl
  | cons cut cuts =>
    obtain ⟨front, piece, split⟩ := Cut.rows_last (List.cons_ne_nil cut cuts)
    rw [split, split, receive_append, receive_append]
    exact complete_push piece wraps exitCode totalRows

end Running

namespace Tracker

variable {tracker : Tracker} {id : InvocationId} {running : Running}

/-- Pushing rows to a running invocation leads to what it comes to when it receives them. -/
theorem course_receives (present : tracker.running? id = some running)
    (rows : List (String × Bool)) :
    let reached := (tracker.course (rows.map fun row => .pushRow id row.1 row.2)).tracker
    let received := running.receive id tracker.limits tracker.table rows
    reached.running? id = some received.1 ∧ reached.table = received.2 ∧
      reached.limits = tracker.limits := by
  -- Induction on the rows, each of which is pushed to what runs.
  induction rows generalizing tracker running with
  | nil => exact ⟨present, rfl, rfl⟩
  | cons row rows ih =>
    have pushed := running?_update_self present
      (running.push id tracker.limits tracker.table row.1 row.2).1
      (running.push id tracker.limits tracker.table row.1 row.2).2.1
    rw [List.map_cons, course_cons, perform_pushRow present, Running.receive_cons]
    exact ih pushed

/-- The slots of an invocation that is begun first. -/
def firstSlots (tracker : Tracker) (invocation : Invocation) : List Slot :=
  -- The matchers attach that the registry resolves it to.
  (attachAll tracker.deferBuffered .first invocation
    (tracker.registry.resolve .first invocation).1).1

/-- An invocation that is carried out from its beginning receives all rows and is completed. -/
theorem course_whole (bounded : tracker.Bounded) (fresh : tracker.upcoming = .first)
    (invocation : Invocation) (rows : List (String × Bool)) (exitCode : Int) (totalRows : Nat) :
    let received := Running.receive .first tracker.limits
      { invocation, slots := tracker.firstSlots invocation } tracker.table rows
    (tracker.course (Operation.whole invocation rows exitCode totalRows)).tracker.table =
      (received.1.complete .first tracker.limits received.2 exitCode totalRows).1 := by
  -- The course begins, receives the rows and finishes.
  have begun := running?_perform_begin bounded invocation .first
  rw [if_pos fresh.symm, fresh] at begun
  have limits : (tracker.perform (.begin invocation)).2.1.limits = tracker.limits := by
    rw [perform_begin]
  have table : (tracker.perform (.begin invocation)).2.1.table = tracker.table := by
    rw [perform_begin]
  obtain ⟨present, reached, kept⟩ := course_receives begun rows
  rw [limits, table] at present reached
  rw [limits] at kept
  rw [Operation.whole, course_concat, Course.follow_tracker, course_cons]
  dsimp only
  rw [perform_finish present, reached, kept]
  rfl

end Tracker

end Annotator

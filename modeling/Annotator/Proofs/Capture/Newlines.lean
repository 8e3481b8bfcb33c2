import Annotator.Proofs.Text.RawLines
import Annotator.Proofs.Tracker.History
import Annotator.Replay

/-!
A replay yields the regions of the session that pushes the lines of the output one by one, so that
it does not depend on how the lines end.
-/

namespace Annotator

variable {tracker : Tracker} {id : InvocationId} {running : Running}

namespace Tracker

/-- A row that a running invocation takes is pushed as the operation says. -/
theorem pushRow_eq (present : tracker.running? id = some running) (row : String) (wraps : Bool) :
    tracker.pushRow id row wraps = .ok (tracker.perform (.pushRow id row wraps)).2 := by
  -- Performing the operation runs the same function and packs its answer.
  rw [perform_pushRow present]
  simp [pushRow, present]

/-- An invocation that runs is finished as the operation says. -/
theorem finish_eq (present : tracker.running? id = some running) (exitCode : Int)
    (totalRows : Nat) :
    tracker.finish id exitCode totalRows =
      .ok (tracker.perform (.finish id exitCode totalRows)).2 := by
  -- Performing the operation runs the same function and packs its answer.
  rw [perform_finish present]
  simp [finish, present]

/-- An invocation that takes a row goes on. -/
theorem exists_running_perform_pushRow (present : tracker.running? id = some running)
    (row : String) (wraps : Bool) :
    ∃ later, (tracker.perform (.pushRow id row wraps)).2.1.running? id = some later := by
  -- The invocation is put back after it took the row.
  rw [perform_pushRow present]
  exact ⟨_, running?_update_self present _ _⟩

end Tracker

namespace Replay

/-- The operations that push lines as rows that do not wrap. -/
def pushes (id : InvocationId) (lines : List String) : List Operation :=
  -- Each line is a row of its own.
  lines.map fun line => .pushRow id line false

/-- The operations on an invocation whose output is given line by line. -/
def session (id : InvocationId) (invocation : Invocation) (exitCode : Int)
    (lines : List String) : List Operation :=
  -- Empty lines count as rows too.
  .begin invocation :: (pushes id lines ++ [.finish id exitCode lines.length])

/-- Pieces that are read as lines are fed as the pushes of the lines go. -/
theorem feed_eq (present : tracker.running? id = some running) (count : Nat)
    {pieces : List (List UInt8)} {lines : List String}
    (read : pieces.map Text.lineOf? = lines.map some) :
    let course := tracker.course (pushes id lines)
    feed id tracker count pieces = (.ok (count + lines.length, course.tracker), course.journal) ∧
      course.responses = List.replicate lines.length .accepted ∧
      ∃ last, course.tracker.running? id = some last := by
  -- Induction on the pieces, with the tracker generalized, as each line leaves another one.
  induction pieces generalizing tracker running count lines with
  | nil =>
    obtain rfl : lines = [] := List.map_eq_nil_iff.mp read.symm
    exact ⟨rfl, rfl, running, present⟩
  | cons piece pieces ih =>
    cases lines with
    | nil => cases read
    | cons line lines =>
      obtain ⟨first, others⟩ := List.cons.inj read
      -- The first piece is decoded, and its returns are dropped.
      obtain ⟨text, decoded, dropped⟩ := Option.map_eq_some_iff.mp first
      obtain ⟨later, goesOn⟩ := Tracker.exists_running_perform_pushRow present line false
      obtain ⟨fed, accepted, last⟩ := ih goesOn (count + 1) others
      have answer : (tracker.perform (.pushRow id line false)).1 = .accepted := by
        rw [Tracker.perform_pushRow present]
      dsimp only
      rw [pushes, List.map_cons, Tracker.course_cons]
      refine ⟨?_, ?_, last⟩
      · -- Feeding the line is pushing it, and the rest goes on from there.
        rw [feed, decoded]
        dsimp only
        rw [dropped, Tracker.pushRow_eq present]
        dsimp only
        rw [fed, List.length_cons, Nat.add_right_comm, Nat.add_assoc]
        rfl
      · rw [List.length_cons, List.replicate_succ, ← accepted, ← answer]
        rfl

/-- A session ends where finishing leads after the pushes of the lines. -/
theorem course_session (tracker : Tracker) (id : InvocationId) (invocation : Invocation)
    (exitCode : Int) (lines : List String) :
    let begun := tracker.perform (.begin invocation)
    let pushed := begun.2.1.course (pushes id lines)
    let finished := pushed.tracker.perform (.finish id exitCode lines.length)
    let course := tracker.course (session id invocation exitCode lines)
    course.tracker = finished.2.1 ∧
      course.responses = begun.1 :: (pushed.responses ++ [finished.1]) := by
  -- The operations are the beginning, the pushes and the end.
  dsimp only
  rw [session, Tracker.course_cons]
  dsimp only
  rw [Tracker.course_concat]
  exact ⟨rfl, rfl⟩

/-- A replay whose lines are fed yields the regions that are there when it is finished. -/
theorem run_of_fed {registry : Registry} {settings : Settings} {start : Tracker}
    (starts : Tracker.ofSettings registry settings = start) {invocation : Invocation}
    {exitCode : Int} {output : ByteArray} {count : Nat} {fed : Tracker} {told : Journal}
    {finished : Tracker × Journal}
    (lines : feed start.upcoming (start.perform (.begin invocation)).2.1 0
      (Text.rawLines output.toList) = (.ok (count, fed), told))
    (completed : fed.finish start.upcoming exitCode count = .ok finished) :
    (run registry settings { invocation, exitCode, output }).1 =
      .ok (finished.1.table.forInvocation start.upcoming) := by
  -- The replay begins the invocation, feeds the lines and concludes.
  have opened : start.begin invocation =
      (start.upcoming, (start.perform (.begin invocation)).2) := by
    simp only [Tracker.perform, Tracker.begin, Tracker.upcoming]
  rw [run, starts, opened]
  dsimp only
  rw [lines]
  dsimp only
  rw [conclude, completed]

/--
A replay yields the regions of the session that pushes the lines one by one.

The session depends on the lines alone, so that captures of the same lines yield the same regions
whatever newlines and carriage returns they are written with. No operation of it is refused.
-/
theorem replay_ignores_newlines (registry : Registry) (settings : Settings)
    (invocation : Invocation) (exitCode : Int) {output : ByteArray} {lines : List String}
    (holds : Text.Holds output.toList lines) :
    let start := Tracker.ofSettings registry settings
    let course := start.course (session start.upcoming invocation exitCode lines)
    course.responses = .issued start.upcoming :: List.replicate (lines.length + 1) .accepted ∧
      (run registry settings { invocation, exitCode, output }).1 =
        .ok (course.tracker.table.forInvocation start.upcoming) := by
  -- The lines are fed as they are pushed, and finished as the session is.
  dsimp only
  have bounded : (Tracker.ofSettings registry settings).Bounded :=
    Tracker.bounded_ofRegistry registry settings.deferBuffered settings.limits
  generalize starts : Tracker.ofSettings registry settings = start at bounded ⊢
  have begun := Tracker.running?_perform_begin bounded invocation start.upcoming
  rw [if_pos rfl] at begun
  obtain ⟨fed, accepted, last, goesOn⟩ := feed_eq begun 0 holds.read
  rw [Nat.zero_add] at fed
  obtain ⟨ended, responses⟩ := course_session start start.upcoming invocation exitCode lines
  constructor
  · rw [responses, accepted, Tracker.perform_finish goesOn, List.replicate_succ',
      Tracker.perform_begin]
  · rw [ended]
    exact run_of_fed starts fed (Tracker.finish_eq goesOn exitCode lines.length)

/-- The same lines with mixed ends and unterminated, or all with newlines alone. -/
theorem replay_ignores_newlines_mixed :
    let lines := ["a.c:3:1: error: x", "", "b"]
    let mixed := "a.c:3:1: error: x\r\n\r\r\nb\r".toUTF8
    let plain := "a.c:3:1: error: x\n\nb\n".toUTF8
    let replayed (output : ByteArray) := run (Registry.builtins {}).1 {}
      { invocation := { command := "make", workingDir := "/w" }, exitCode := 2, output }
    Text.Holds mixed.toList lines ∧ Text.Holds plain.toList lines ∧
      (replayed mixed).1 = (replayed plain).1 := by
  -- Both outputs are the same lines, each written with its own ends.
  intro lines mixed plain replayed
  have first : Text.IsLine "a.c:3:1: error: x" := ⟨by decide, by decide⟩
  have empty : Text.IsLine "" := ⟨by decide, by decide⟩
  have last : Text.IsLine "b" := ⟨by decide, by decide⟩
  have mixedHolds : Text.Holds mixed.toList lines := by
    have written : mixed.toList = Text.returned "a.c:3:1: error: x" 1 ++ Text.newline ::
        (Text.returned "" 2 ++ Text.newline :: Text.returned "b" 1) := by decide +kernel
    rw [written]
    exact .line first 1 (.line empty 2 (.last last 1 (by decide +kernel)))
  have plainHolds : Text.Holds plain.toList lines := by
    have written : plain.toList = Text.returned "a.c:3:1: error: x" 0 ++ Text.newline ::
        (Text.returned "" 0 ++ Text.newline :: (Text.returned "b" 0 ++ [Text.newline])) := by
      decide +kernel
    rw [written]
    exact .line first 0 (.line empty 0 (.line last 0 .nil))
  exact ⟨mixedHolds, plainHolds, (replay_ignores_newlines _ _ _ _ mixedHolds).2.trans
    (replay_ignores_newlines _ _ _ _ plainHolds).2.symm⟩

end Replay

end Annotator

import Annotator.Proofs.Output.Rows
import Annotator.Proofs.Tracker.Running

/-! The state of a running invocation mirrors what it went through since it was begun. -/

namespace Annotator

/-- Whether and how an invocation ended. -/
inductive Ending
  /-- Its output is being received. -/
  | running
  /-- It was given up. -/
  | abandoned
  /-- It completed with an exit code and a total number of rows. -/
  | finished (exitCode : Int) (totalRows : Nat)
  deriving DecidableEq, Repr

/-- What an invocation went through. -/
structure Life where
  /-- The invocation as it was begun. -/
  invocation : Invocation
  /-- The rows it received, each with its wrapping. -/
  rows : List (String × Bool) := []
  /-- Whether and how it ended. -/
  ending : Ending := .running
  deriving DecidableEq, Repr

namespace Life

/-- A life after an operation that works on its invocation. -/
def moved (life : Life) : Operation → Life
  -- Rows are added at the end.
  | .pushRow _ row wraps => { life with rows := life.rows ++ [(row, wraps)] }
  | .finish _ exitCode totalRows => { life with ending := .finished exitCode totalRows }
  | .abandon _ => { life with ending := .abandoned }
  | .begin _ | .evict _ | .evictInvocation _ => life

/-- An operation moves on the life of the invocation it works on, until that has ended. -/
def advance (id : InvocationId) (life : Life) (operation : Operation) : Life :=
  -- Operations on other invocations make no difference.
  if operation.target? = some id ∧ life.ending = .running then life.moved operation else life

/-- The life of an invocation after the operations behind its beginning. -/
def after (id : InvocationId) (invocation : Invocation) (operations : List Operation) : Life :=
  -- At first no row has been received.
  operations.foldl (advance id) { invocation }

/-- A life is moved on at its end. -/
theorem after_concat (id : InvocationId) (invocation : Invocation) (operations : List Operation)
    (operation : Operation) :
    after id invocation (operations ++ [operation]) =
      (after id invocation operations).advance id operation := by
  -- A life is followed from the left.
  simp [after]

/-- The texts of the received rows. -/
def received (life : Life) : Array String :=
  -- How rows wrap shows only in the lines.
  (life.rows.map (·.1)).toArray

/-- The lines that the received rows completed, with the buffer they left. -/
def assembled (life : Life) : List LogicalLine × LineBuffer :=
  -- A line whose last row wraps is still in the buffer.
  LineBuffer.assemble life.rows

/-- The lines of an invocation, among them the unfinished one once it completed. -/
def lines (life : Life) : List LogicalLine :=
  -- Only finishing flushes the buffer.
  match life.ending with
  | .finished .. => life.assembled.1 ++ life.assembled.2.flush.1.toList
  | .running | .abandoned => life.assembled.1

/-- A running invocation shows the rows and lines of its life to slots of the given names. -/
structure Mirrors (life : Life) (names : List String) (running : Running) : Prop where
  /-- The invocation is kept as it was begun. -/
  invocation : running.invocation = life.invocation
  /-- All received rows are kept. -/
  rows : running.rows = life.received
  /-- The buffer is the one that the rows left. -/
  buffer : running.buffer = life.assembled.2
  /-- The slots keep their names. -/
  names : running.slots.map (·.name) = names
  /-- Only lines of the invocation are retained. -/
  retained : ∀ line ∈ running.lines, line ∈ life.assembled.1
  /-- All lines are retained for as long as a slot waits. -/
  complete : running.hasWaiting = true → running.lines.toList = life.assembled.1

/-- What a tracker finds of an invocation tells whether its life has ended. -/
inductive Shown (life : Life) (names : List String) : Option Running → Prop
  /-- A life that runs is mirrored. -/
  | running {running : Running} (still : life.ending = .running)
    (mirrors : life.Mirrors names running) : Shown life names (some running)
  /-- A life that has ended is released. -/
  | released (ended : life.ending ≠ .running) : Shown life names none

end Life

namespace Slot

/-- A slot waits after a line exactly if it waited before. -/
theorem deliver_waiting (stage : Stage) (slot : Slot) (table : RegionTable) (line : LogicalLine) :
    (slot.deliver stage table line).1.status = .waiting ↔ slot.status = .waiting := by
  -- Only an active slot changes.
  by_cases active : slot.status = .active
  · -- A line that is taken never makes a slot wait.
    rw [deliver_of_active active, active]
    simp only [reduceCtorEq, iff_false]
    unfold SlotStatus.afterLine
    split <;> simp
  · rw [deliver_of_not_active active]

end Slot

namespace Running

variable (id : InvocationId) (limits : Limits) (running : Running) (table : RegionTable)

/-- A slot waits after a line was delivered to all exactly if one waited before. -/
theorem each_deliver_waiting (stage : Stage) (line : LogicalLine) (slots : List Slot) :
    (Slot.each (fun slot table => slot.deliver stage table line) slots table).1.any
        (·.status == .waiting) = slots.any (·.status == .waiting) := by
  -- Induction on the slots, as a line makes no slot wait and none stop waiting.
  induction slots generalizing table with
  | nil => rfl
  | cons slot rest ih =>
    rw [Slot.each]
    dsimp only
    rw [List.any_cons, List.any_cons, ih]
    congr 1
    rw [Bool.eq_iff_iff, beq_iff_eq, beq_iff_eq]
    exact Slot.deliver_waiting stage slot table line

/-- Delivering a line retains it if some slot waits. -/
theorem deliver_retains (line : LogicalLine) :
    (running.deliver id limits table line).1.hasWaiting = running.hasWaiting ∧
      (running.deliver id limits table line).1.lines =
        if running.hasWaiting then running.lines.push line else running.lines := by
  -- The line is kept as long as a slot waits for it.
  have same := each_deliver_waiting table { id, limits, rows := running.rows } line running.slots
  rw [deliver_eq]
  refine ⟨same, ?_⟩
  dsimp only
  rw [same]
  rfl

/-- Delivering a line that may not have been completed retains it if some slot waits. -/
theorem deliverIfAny_retains (given : Option LogicalLine) :
    (running.deliverIfAny id limits table given).1.hasWaiting = running.hasWaiting ∧
      (running.hasWaiting = true → (running.deliverIfAny id limits table given).1.lines.toList =
        running.lines.toList ++ given.toList) := by
  -- Without a line nothing is kept.
  cases given with
  | none => exact ⟨rfl, fun _ => by simp [deliverIfAny]⟩
  | some line =>
    obtain ⟨waiting, lines⟩ := deliver_retains id limits running table line
    refine ⟨waiting, fun waits => ?_⟩
    rw [deliverIfAny, lines, if_pos waits]
    simp

end Running

namespace Life

variable {id : InvocationId} {life : Life} {names : List String}

/-- An invocation that was just begun is mirrored. -/
theorem mirrors_begun (invocation : Invocation) (slots : List Slot) :
    (after id invocation []).Mirrors (slots.map (·.name)) { invocation, slots } where
  -- Nothing has been received on either side.
  invocation := rfl
  rows := rfl
  buffer := rfl
  names := rfl
  retained line member := by simp at member
  complete _ := rfl

/-- The buffer of a mirrored invocation is in step with the rows it received. -/
theorem Mirrors.inStep {running : Running} (mirrors : life.Mirrors names running) :
    running.buffer.InStep running.rows := by
  -- The buffer has assembled the rows of the life.
  rw [mirrors.buffer, mirrors.rows]
  exact (LineBuffer.assemble_inStep life.rows).1

/-- One more row completes at most one more line of a life. -/
theorem assembled_push (life : Life) (id : InvocationId) (row : String) (wraps : Bool) :
    (life.moved (.pushRow id row wraps)).assembled =
      (life.assembled.1 ++ (life.assembled.2.push row wraps).1.toList,
        (life.assembled.2.push row wraps).2) :=
  -- The row comes last.
  LineBuffer.assemble_concat life.rows row wraps

/-- A life with one more row is mirrored once the row was pushed. -/
theorem Mirrors.push {running : Running} (mirrors : life.Mirrors names running)
    (limits : Limits) (table : RegionTable) (row : String) (wraps : Bool) :
    (life.moved (.pushRow id row wraps)).Mirrors names
      (running.push id limits table row wraps).1 := by
  -- The row grows the buffer and the rows first, and the completed line is delivered then.
  let grown : Running := { running with
    buffer := (running.buffer.push row wraps).2
    rows := running.rows.push row }
  let given := (running.buffer.push row wraps).1
  have assembled : (life.moved (.pushRow id row wraps)).assembled =
      (life.assembled.1 ++ given.toList, grown.buffer) := by
    simp only [assembled_push, given, grown, mirrors.buffer]
  -- Which regions are created makes no difference.
  have frame : grown.Frames (fun _ => True) id table (grown.deliverIfAny id limits table given) :=
    Running.deliverIfAny_frames fun _ _ _ _ _ _ => trivial
  obtain ⟨waiting, lines⟩ := grown.deliverIfAny_retains id limits table given
  rw [Running.push_eq]
  refine ⟨frame.invocation.trans mirrors.invocation, ?_, ?_,
    frame.slots.names.trans mirrors.names, ?_, ?_⟩
  · rw [frame.rows]
    simp only [grown, mirrors.rows, received, moved]
    simp
  · rw [frame.buffer, assembled]
  · intro line member
    rw [assembled, List.mem_append]
    exact (Running.mem_lines_deliverIfAny member).imp (mirrors.retained line) Option.mem_toList.mpr
  · intro waits
    rw [waiting] at waits
    rw [assembled, lines waits]
    exact congrArg (· ++ given.toList) (mirrors.complete waits)

/-- An operation that works on another invocation does not move on a life. -/
theorem advance_elsewhere {operation : Operation} (elsewhere : operation.target? ≠ some id) :
    life.advance id operation = life := by
  -- A life advances only by operations on it.
  exact if_neg fun both => elsewhere both.1

/-- A life that has ended is not moved on. -/
theorem advance_ended {operation : Operation} (ended : life.ending ≠ .running) :
    life.advance id operation = life := by
  -- A life advances only until it ends.
  exact if_neg fun both => ended both.2

/-- A life that runs is moved on by an operation that works on its invocation. -/
theorem advance_running {operation : Operation} (targeted : operation.target? = some id)
    (still : life.ending = .running) :
    life.advance id operation = life.moved operation :=
  -- Both conditions are met.
  if_pos ⟨targeted, still⟩

/-- A tracker shows a life that was moved on together with it. -/
theorem Shown.perform {tracker : Tracker} (bounded : tracker.Bounded)
    (issued : id.number < tracker.nextId) (shown : life.Shown names (tracker.running? id))
    (operation : Operation) :
    (life.advance id operation).Shown names
      ((tracker.perform operation).2.1.running? id) := by
  -- Only work on the invocation itself moves its life on.
  by_cases targeted : operation.target? = some id
  · cases present : tracker.running? id with
    | none =>
      -- Nothing happens to an invocation that has ended.
      rw [present] at shown
      cases shown with
      | released ended =>
        rw [Tracker.perform_gone targeted present, advance_ended ended, present]
        exact .released ended
    | some running =>
      rw [present] at shown
      obtain ⟨still, mirrors⟩ := shown
      rw [advance_running targeted still]
      cases operation with
      | pushRow other row wraps =>
        cases targeted
        rw [Tracker.perform_pushRow present]
        dsimp only
        rw [Tracker.running?_update_self present]
        exact .running still (mirrors.push tracker.limits tracker.table row wraps)
      | finish other exitCode totalRows =>
        cases targeted
        rw [Tracker.perform_finish present]
        have released : (tracker.release id).running? id = none := Tracker.running?_release_self
        exact released.symm ▸ .released (by simp [moved])
      | abandon other =>
        cases targeted
        rw [Tracker.perform_abandon present]
        dsimp only
        rw [Tracker.running?_release_self]
        exact .released (by simp [moved])
      | begin invocation => cases targeted
      | evict region => cases targeted
      | evictInvocation other => cases targeted
  · rw [advance_elsewhere targeted,
      Tracker.running?_perform_elsewhere bounded (Tracker.addressee?_ne issued targeted)]
    exact shown

end Life

namespace Tracker

/-- A tracker without invocations is bounded. -/
theorem bounded_ofRegistry (registry : Registry) (deferBuffered : Bool) (limits : Limits) :
    (ofRegistry registry deferBuffered limits).Bounded := by
  -- Nothing runs at the start.
  intro id running present
  simp [ofRegistry, running?] at present

/-- A course leads from a bounded tracker to a bounded tracker with the same settings. -/
theorem course_settled {tracker : Tracker} (bounded : tracker.Bounded)
    (operations : List Operation) :
    (tracker.course operations).tracker.Bounded ∧
      tracker.Settled (tracker.course operations).tracker := by
  -- Induction on the operations from their end, each of which keeps what is settled.
  induction operations using List.reverseRecOn with
  | nil => exact ⟨bounded, rfl, rfl, rfl, Nat.le_refl _⟩
  | append_singleton operations operation ih =>
    rw [course_concat]
    exact ⟨ih.1.perform operation, ih.2.trans (perform_settled _ operation)⟩

/-- The names of the matchers that are given a slot when an invocation begins. -/
def seated (tracker : Tracker) (invocation : Invocation) : List String :=
  -- Matchers that do not want the invocation when they are started get no slot.
  (attachAll tracker.deferBuffered tracker.upcoming invocation
    (tracker.registry.resolve tracker.upcoming invocation).1).1.map (·.name)

/-- The number of an invocation stays issued in every course that begins it. -/
theorem course_issued {tracker : Tracker} (bounded : tracker.Bounded) (invocation : Invocation)
    (operations : List Operation) :
    tracker.nextId < (tracker.course (.begin invocation :: operations)).tracker.nextId := by
  -- The beginning issues a number, and numbers only go up.
  have begun : (tracker.course [.begin invocation]).tracker.Bounded :=
    (course_settled bounded _).1
  rw [← List.singleton_append, (course_append tracker _ operations).1]
  refine Nat.lt_of_lt_of_le ?_ (course_settled begun operations).2.nextId
  rw [(course_singleton ..).1, perform_begin]
  exact Nat.lt_succ_self _

/-- A course shows the life of the invocation with whose beginning it starts. -/
theorem course_life {tracker : Tracker} (bounded : tracker.Bounded) (invocation : Invocation)
    (operations : List Operation) :
    (Life.after tracker.upcoming invocation operations).Shown (tracker.seated invocation)
      ((tracker.course (.begin invocation :: operations)).tracker.running? tracker.upcoming) := by
  -- Induction on the operations from their end, each of which moves the life along.
  induction operations using List.reverseRecOn with
  | nil =>
    rw [(course_singleton ..).1, running?_perform_begin bounded, if_pos rfl]
    exact .running rfl (Life.mirrors_begun invocation _)
  | append_singleton operations operation ih =>
    rw [← List.cons_append, course_concat, Life.after_concat]
    exact ih.perform (course_settled bounded _).1 (course_issued bounded invocation operations)
      operation

/-- A course calls no matcher of an invocation whose number it did not issue. -/
theorem course_calls_unissued {tracker : Tracker} (bounded : tracker.Bounded)
    (operations : List Operation) {id : InvocationId}
    (unissued : (tracker.course operations).tracker.nextId ≤ id.number) (matcher : String) :
    Journal.callsOf (tracker.course operations).journal matcher id = [] := by
  -- Induction on the operations from behind.
  induction operations using List.reverseRecOn with
  | nil => rfl
  | append_singleton operations operation ih =>
    obtain ⟨kept, _⟩ := course_settled bounded operations
    rw [course_concat] at unissued ⊢
    have onward := (perform_settled (tracker.course operations).tracker operation).nextId
    -- The last operation is about another invocation, or is refused as the number is unknown.
    have last : Journal.callsOf ((tracker.course operations).tracker.perform operation).2.2
        matcher id = [] := by
      by_cases addressed : (tracker.course operations).tracker.addressee? operation = some id
      · rcases begins_or_targets (tracker.course operations).tracker operation with
          ⟨invocation, rfl⟩ | targeted
        · -- Beginning would have issued the number.
          cases addressed
          simp only [Course.follow_tracker, perform_begin] at unissued
          exact absurd unissued (Nat.not_succ_le_self _)
        · have gone : (tracker.course operations).tracker.running? id = none := by
            cases present : (tracker.course operations).tracker.running? id with
            | none => rfl
            | some running =>
              exact absurd (kept id running present)
                (Nat.not_lt.mpr (Nat.le_trans onward unissued))
          rw [perform_gone (targeted.symm.trans addressed) gone]
          rfl
      · exact calls_perform_elsewhere addressed matcher
    simp only [Course.follow_journal, Journal.callsOf_append, last, List.append_nil]
    exact ih (Nat.le_trans onward unissued)

/-- Every running invocation was begun in the course that leads to it. -/
theorem course_origin {tracker : Tracker} (idle : ∀ id, tracker.running? id = none)
    (operations : List Operation) {id : InvocationId} {running : Running}
    (present : (tracker.course operations).tracker.running? id = some running) :
    ∃ before invocation after, operations = before ++ .begin invocation :: after ∧
      id = (tracker.course before).tracker.upcoming := by
  -- Induction on the operations from behind.
  have bounded : tracker.Bounded := fun id running present => by rw [idle] at present; cases present
  induction operations using List.reverseRecOn generalizing running with
  | nil => rw [course_nil, idle] at present; cases present
  | append_singleton operations operation ih =>
    obtain ⟨kept, _⟩ := course_settled bounded operations
    have earlier {old : Running}
        (found : (tracker.course operations).tracker.running? id = some old) :
        ∃ before invocation after,
          operations ++ [operation] = before ++ .begin invocation :: after ∧
          id = (tracker.course before).tracker.upcoming := by
      obtain ⟨before, invocation, after, rfl, issued⟩ := ih found
      exact ⟨before, invocation, after ++ [operation], by simp, issued⟩
    rw [course_concat] at present
    -- What the last operation is not about, or only worked on, was running before it.
    by_cases addressed : (tracker.course operations).tracker.addressee? operation = some id
    · rcases begins_or_targets (tracker.course operations).tracker operation with
        ⟨invocation, rfl⟩ | targeted
      · cases addressed
        exact ⟨operations, invocation, [], rfl, rfl⟩
      · cases found : (tracker.course operations).tracker.running? id with
        | some old => exact earlier found
        | none =>
          simp only [Course.follow_tracker,
            perform_gone (targeted.symm.trans addressed) found] at present
          rw [found] at present
          cases present
    · simp only [Course.follow_tracker, running?_perform_elsewhere kept addressed] at present
      exact earlier present

/-- A running invocation mirrors its life since the operation that began it. -/
theorem course_mirrors {tracker : Tracker} (idle : ∀ id, tracker.running? id = none)
    {operations : List Operation} {id : InvocationId} {running : Running}
    (present : (tracker.course operations).tracker.running? id = some running) :
    ∃ before invocation after, operations = before ++ .begin invocation :: after ∧
      id = (tracker.course before).tracker.upcoming ∧
      (Life.after id invocation after).ending = .running ∧
      (Life.after id invocation after).Mirrors
        ((tracker.course before).tracker.seated invocation) running := by
  -- What runs has begun at some operation, and its life is followed from there.
  have bounded : tracker.Bounded := fun id running present => by rw [idle] at present; cases present
  obtain ⟨before, invocation, after, rfl, rfl⟩ := course_origin idle operations present
  have shown := course_life (course_settled bounded before).1 invocation after
  rw [(course_append tracker before _).1] at present
  rw [present] at shown
  cases shown with
  | running still mirrors => exact ⟨before, invocation, after, rfl, rfl, still, mirrors⟩

/-- A matcher that is given a slot attached to the invocation. -/
theorem attached_of_seated {tracker : Tracker} {invocation : Invocation} {name : String}
    (seated : name ∈ tracker.seated invocation) :
    ∃ attachment ∈ (tracker.registry.resolve tracker.upcoming invocation).1,
      attachment.name = name := by
  -- Each slot was seated for an attachment of its name.
  unfold Tracker.seated at seated
  exact List.mem_map.mp ((attachAll_names _).subset seated)

end Tracker

end Annotator

import Annotator.Proofs.Tracker.History

/-! The life of an invocation and the verdicts of a matcher decide which hooks are called. -/

namespace Annotator

/-- A matcher's part in the life of an invocation. -/
structure Attendance where
  /-- The number of the invocation. -/
  id : InvocationId
  /-- Whether the matcher waits for the invocation to complete. -/
  waits : Bool
  /-- Whether the matcher is finished after it stopped. -/
  finishPolicy : FinishPolicy
  /-- What the invocation went through. -/
  life : Life

namespace Attendance

/-- The invocation with which a matcher is started, as soon as it is. -/
def startedWith? (attendance : Attendance) : Option Invocation :=
  -- A matcher that waits is started once the exit code is known.
  match attendance.waits, attendance.life.ending with
  | false, _ => some attendance.life.invocation
  | true, .finished exitCode _ =>
    some { attendance.life.invocation with exitCode := some exitCode }
  | true, _ => none

/-- The call by which a matcher is given a line. -/
def lineCall (attendance : Attendance) (line : LogicalLine) : Call :=
  -- A matcher that waited sees all rows, and any other one those up to the end of the line.
  .line { invocation := attendance.id
          rowCount := if attendance.waits then attendance.life.received.size
            else line.endRow + 1 } line

/-- The call by which a matcher is finished, once the invocation completed. -/
def finishCalls (attendance : Attendance) : List Call :=
  -- There is none for an invocation that runs or was abandoned.
  match attendance.life.ending with
  | .finished _ totalRows =>
    [.finish { invocation := attendance.id, rowCount := attendance.life.received.size } totalRows]
  | .running | .abandoned => []

/-- The calls of a matcher that takes lines, given its verdicts. -/
def takingCalls (attendance : Attendance) : List LogicalLine → List Verdict → List Call
  -- Each verdict decides whether the next line is given.
  | [], _ => attendance.finishCalls
  | line :: rest, verdicts =>
    attendance.lineCall line ::
      match verdicts with
      | .proceed :: later => attendance.takingCalls rest later
      | .stop :: _ => if attendance.finishPolicy = .always then attendance.finishCalls else []
      | _ => []

/-- The calls of a matcher, given its verdicts. -/
def calls (attendance : Attendance) (verdicts : List Verdict) : List Call :=
  -- Only a matcher that wants the invocation is given its lines.
  match attendance.startedWith? with
  | none => []
  | some invocation =>
    .start invocation ::
      match verdicts with
      | .wanted :: later => attendance.takingCalls attendance.life.lines later
      | _ => []

/-- Calls follow a matcher's attendance when its own verdicts lead to them. -/
def Follows (attendance : Attendance) (told : List (Call × Verdict)) : Prop :=
  -- Each call comes with the verdict it was answered with.
  told.map (·.1) = attendance.calls (told.map (·.2))

/-- The line calls behind the start, and the status they leave a matcher in. -/
inductive Took (call : LogicalLine → Call) :
    List LogicalLine → List (Call × Verdict) → SlotStatus → Prop
  /-- All lines were taken. -/
  | all (lines : List LogicalLine) :
    Took call lines (lines.map fun line => (call line, .proceed)) .active
  /-- After a line no further one was wanted. -/
  | stopped (taken : List LogicalLine) (line : LogicalLine) (rest : List LogicalLine) :
    Took call (taken ++ line :: rest)
      (taken.map (fun line => (call line, .proceed)) ++ [(call line, .stop)]) .stopped
  /-- The hook failed on a line. -/
  | failed (taken : List LogicalLine) (line : LogicalLine) (rest : List LogicalLine)
      (fault : Fault) :
    Took call (taken ++ line :: rest)
      (taken.map (fun line => (call line, .proceed)) ++ [(call line, .failed fault)]) .faulted

namespace Took

variable {call : LogicalLine → Call} {lines : List LogicalLine} {told : List (Call × Verdict)}
  {slot : Slot} {stage : Stage}

/-- A matcher that was started does not wait. -/
theorem not_waiting {status : SlotStatus} (took : Took call lines told status) :
    status ≠ .waiting := by
  -- A matcher that took a call has been started.
  cases took <;> simp

/-- A delivered line is taken by an active matcher and passed over by any other one. -/
theorem deliver (took : Took call lines told slot.status) (table : RegionTable) {line : LogicalLine}
    (handed : Call.line (stage.scene slot.name (some line)).view line = call line) :
    Took call (lines ++ [line])
      (told ++ Journal.hooksOf (slot.deliver stage table line).2.2 slot.name stage.id)
      (slot.deliver stage table line).1.status := by
  -- Only an active matcher is given the line, and its answer decides what it is given next.
  generalize held : slot.status = status at took
  cases took with
  | all lines =>
    rw [Slot.deliver_of_active held]
    dsimp only
    rw [Journal.hooksOf_hookJournal rfl, handed]
    -- The answer decides which kind of record results.
    generalize (slot.matcher.takeLine (stage.scene slot.name (some line)) table line).1.answer =
      answer
    cases answer with
    | error fault => exact failed lines line [] fault
    | ok flow =>
      cases flow with
      | proceed => simpa [Verdict.ofFlow, SlotStatus.afterLine] using all (lines ++ [line])
      | stop => exact stopped lines line []
  | stopped taken last rest =>
    rw [Slot.deliver_of_not_active (by simp [held]), held, List.append_assoc]
    simpa using stopped taken last (rest ++ [line])
  | failed taken last rest fault =>
    rw [Slot.deliver_of_not_active (by simp [held]), held, List.append_assoc]
    simpa using failed taken last (rest ++ [line]) fault

/-- Lines that are delivered in a row are taken one after the other. -/
theorem deliverLines (took : Took call lines told slot.status) (table : RegionTable)
    {later : List LogicalLine}
    (handed : ∀ line ∈ later, Call.line (stage.scene slot.name (some line)).view line = call line) :
    Took call (lines ++ later)
      (told ++ Journal.hooksOf (slot.deliverLines stage table later).2.2 slot.name stage.id)
      (slot.deliverLines stage table later).1.status := by
  -- Induction on the lines, with what was taken before generalized.
  induction later generalizing slot table lines told with
  | nil => simpa [Slot.deliverLines] using took
  | cons line rest ih =>
    have name : (slot.deliver stage table line).1.name = slot.name :=
      (slot.deliver_keeps stage table line).1
    -- The first line is taken, and the induction goes on from the slot and the table it leaves.
    have first := took.deliver table (handed line List.mem_cons_self)
    have onward := ih first (slot.deliver stage table line).2.1 fun other member => by
      rw [name]
      exact handed other (List.mem_cons_of_mem _ member)
    rw [name] at onward
    rw [Slot.deliverLines]
    dsimp only
    rw [Journal.hooksOf_append, ← List.append_assoc]
    simpa using onward

/-- A slot that waited is started, and takes all lines if it then wants the invocation. -/
theorem catchUp (waiting : slot.status = .waiting) (invocation : Invocation)
    (table : RegionTable)
    (handed : ∀ line ∈ lines, Call.line (stage.scene slot.name (some line)).view line = call line) :
    (∃ told, Journal.hooksOf (slot.catchUp stage invocation table lines).2.2 slot.name stage.id =
        (.start invocation, .wanted) :: told ∧
      Took call lines told (slot.catchUp stage invocation table lines).1.status) ∨
    (∃ verdict, verdict ≠ .wanted ∧
      Journal.hooksOf (slot.catchUp stage invocation table lines).2.2 slot.name stage.id =
        [(.start invocation, verdict)] ∧
      (slot.catchUp stage invocation table lines).1.wantsFinish = false) := by
  -- A slot that waits is started and then given all the lines.
  rw [Slot.catchUp_of_waiting waiting]
  dsimp only
  rw [Journal.hooksOf_append, Journal.hooksOf_hookJournal rfl]
  -- The answer to the start decides how the slot meets the lines.
  generalize (slot.matcher.start invocation).answer = answer
  generalize (slot.matcher.start invocation).matcher = matcher
  cases answer with
  | error fault =>
    rw [Slot.deliverLines_of_not_active (by simp [SlotStatus.afterStart])]
    exact .inr ⟨.failed fault, by simp, rfl, rfl⟩
  | ok wanted =>
    cases wanted with
    | false =>
      rw [Slot.deliverLines_of_not_active (by simp [SlotStatus.afterStart])]
      exact .inr ⟨.unwanted, by simp, rfl, rfl⟩
    | true =>
      let started : Slot := { slot with matcher, status := .active }
      have took : Took call ([] ++ lines) _ (started.deliverLines stage table lines).1.status :=
        Took.deliverLines (.all []) table handed
      exact .inl ⟨_, rfl, took⟩

/-- Line calls and the finishing behind them follow the verdicts on the lines. -/
theorem follows {attendance : Attendance} (took : Took attendance.lineCall lines told slot.status)
    (policy : slot.finishPolicy = attendance.finishPolicy) (ending : List (Call × Verdict))
    (ended : ending.map (·.1) = if slot.wantsFinish then attendance.finishCalls else []) :
    (told ++ ending).map (·.1) =
      attendance.takingCalls lines ((told ++ ending).map (·.2)) := by
  generalize held : slot.status = status at took
  -- The form of what was taken decides whether finishing is wanted; the calls then agree line by
  -- line, with the ending behind the last of them.
  cases took with
  | all lines =>
    have wants : slot.wantsFinish = true := by simp [Slot.wantsFinish, held]
    rw [if_pos wants] at ended
    induction lines with
    | nil => exact ended
    | cons line rest ih => simpa [takingCalls] using ih
  | stopped taken line rest =>
    have wants : slot.wantsFinish = (attendance.finishPolicy == .always) := by
      simp [Slot.wantsFinish, held, policy]
    rw [wants] at ended
    induction taken with
    | nil => simpa [takingCalls] using ended
    | cons first taken ih => simpa [takingCalls] using ih
  | failed taken line rest fault =>
    have unwanted : slot.wantsFinish = false := by simp [Slot.wantsFinish, held]
    rw [unwanted] at ended
    induction taken with
    | nil => simpa [takingCalls] using ended
    | cons first taken ih => simpa [takingCalls] using ih

end Took

/-- The call by which a matcher that does not wait is given a line. -/
def promptCall (id : InvocationId) (line : LogicalLine) : Call :=
  -- The line has just been completed.
  .line { invocation := id, rowCount := line.endRow + 1 } line

/-- The hook calls of a matcher before its invocation completes, with its slot if it has one. -/
inductive Attends (attendance : Attendance) (lines : List LogicalLine) :
    List (Call × Verdict) → Option Slot → Prop
  /-- The matcher did not want the invocation or failed when it was started. -/
  | unseated {verdict : Verdict} (prompt : attendance.waits = false)
    (unwanted : verdict ≠ .wanted) :
    Attends attendance lines [(.start attendance.life.invocation, verdict)] none
  /-- The matcher has not been started. -/
  | waiting {slot : Slot} (waits : attendance.waits = true)
    (policy : slot.finishPolicy = attendance.finishPolicy) (status : slot.status = .waiting) :
    Attends attendance lines [] (some slot)
  /-- The matcher wanted the invocation and was given lines. -/
  | taking {slot : Slot} {told : List (Call × Verdict)} (prompt : attendance.waits = false)
    (policy : slot.finishPolicy = attendance.finishPolicy)
    (took : Took (promptCall attendance.id) lines told slot.status) :
    Attends attendance lines ((.start attendance.life.invocation, .wanted) :: told) (some slot)

variable {attendance : Attendance} {lines : List LogicalLine} {told : List (Call × Verdict)}
  {own : Option Slot} {stage : Stage}

/-- A matcher that does not wait is given lines by prompt calls. -/
theorem lineCall_prompt (prompt : attendance.waits = false) :
    attendance.lineCall = promptCall attendance.id := by
  -- A matcher that does not wait takes a line once its row is complete.
  funext line
  simp [lineCall, promptCall, prompt]

/-- The hook calls so far do not depend on how the invocation goes on. -/
theorem Attends.onward (attends : attendance.Attends lines told own) {life : Life}
    (same : life.invocation = attendance.life.invocation) :
    Attends { attendance with life } lines told own := by
  -- Only the invocation of the life is looked at here.
  cases attends with
  | unseated prompt unwanted => exact same ▸ .unseated prompt unwanted
  | waiting waits policy status => exact .waiting waits policy status
  | taking prompt policy took => exact same ▸ .taking prompt policy took

/-- Seating a matcher starts it if it does not wait. -/
theorem Attends.seat {deferBuffered : Bool} {attachment : Attachment}
    (waits : attendance.waits = (!attachment.fast && deferBuffered))
    (policy : attendance.finishPolicy = attachment.finishPolicy) :
    attendance.Attends []
      (Journal.hooksOf (Tracker.seat deferBuffered attendance.id attendance.life.invocation
        attachment).2 attachment.name attendance.id)
      (Tracker.seat deferBuffered attendance.id attendance.life.invocation attachment).1 := by
  -- A matcher that waits is seated without being called.
  unfold Tracker.seat
  rw [← waits]
  by_cases deferred : attendance.waits = true
  · rw [if_pos deferred]
    exact .waiting deferred policy.symm rfl
  · rw [if_neg deferred]
    unfold Tracker.attach
    dsimp only
    -- The answer to the start decides whether there is a slot.
    cases answer : (attachment.matcher.start attendance.life.invocation).answer with
    | error fault =>
      rw [Journal.hooksOf_hookJournal rfl]
      exact .unseated (by simpa using deferred) (by simp [Verdict.ofWish])
    | ok wanted =>
      cases wanted with
      | false =>
        rw [Journal.hooksOf_hookJournal rfl]
        exact .unseated (by simpa using deferred) (by simp [Verdict.ofWish])
      | true =>
        rw [Journal.hooksOf_hookJournal rfl]
        exact .taking (by simpa using deferred) policy.symm (.all [])

/-- A delivered line is one more line that the matcher attends to. -/
theorem Attends.deliver (attends : attendance.Attends lines told own) {line : LogicalLine}
    (scheduled : stage.id = attendance.id) (last : stage.rows.size = line.endRow + 1)
    (table : RegionTable) :
    attendance.Attends (lines ++ [line])
      (told ++ own.elim [] fun slot =>
        Journal.hooksOf (slot.deliver stage table line).2.2 slot.name stage.id)
      (own.map fun slot => (slot.deliver stage table line).1) := by
  -- The line reaches the matcher only if it is taking lines already.
  cases attends with
  | unseated prompt unwanted => exact .unseated prompt unwanted
  | waiting waits policy status =>
    rename_i slot
    have passive : slot.status ≠ .active := by simp [status]
    simp only [Option.elim_some, Option.map_some, Slot.deliver_of_not_active passive,
      Journal.hooksOf_nil, List.append_nil]
    exact .waiting waits policy status
  | taking prompt policy took =>
    rename_i slot told
    -- Only here is the line handed over, with the rows counted up to its last one.
    have handed : Call.line (stage.scene slot.name (some line)).view line =
        promptCall attendance.id line := by
      simp [promptCall, Scene.view, Stage.scene, scheduled, last]
    exact .taking prompt ((slot.deliver_keeps stage table line).2.trans policy)
      (took.deliver table handed)

/-- The calls of a matcher whose invocation has not completed follow its attendance. -/
theorem Attends.follows (attends : attendance.Attends attendance.life.assembled.1 told own)
    (unfinished : ∀ exitCode totalRows, attendance.life.ending ≠ .finished exitCode totalRows) :
    attendance.Follows told := by
  -- Without completion nothing is finished and no partial line is flushed.
  have silent : attendance.finishCalls = [] := by
    unfold finishCalls
    cases ending : attendance.life.ending with
    | finished exitCode totalRows => exact absurd ending (unfinished exitCode totalRows)
    | running => rfl
    | abandoned => rfl
  have kept : attendance.life.lines = attendance.life.assembled.1 := by
    unfold Life.lines
    cases ending : attendance.life.ending with
    | finished exitCode totalRows => exact absurd ending (unfinished exitCode totalRows)
    | running => rfl
    | abandoned => rfl
  cases attends with
  | unseated prompt unwanted =>
    rename_i verdict
    cases verdict <;> simp_all [Follows, calls, startedWith?]
  | waiting waits policy status =>
    have unstarted : attendance.startedWith? = none := by
      unfold startedWith?
      cases ending : attendance.life.ending with
      | finished exitCode totalRows => exact absurd ending (unfinished exitCode totalRows)
      | running => rw [waits]
      | abandoned => rw [waits]
    simp [Follows, calls, unstarted]
  | taking prompt policy took =>
    rename_i slot told
    have started : attendance.startedWith? = some attendance.life.invocation := by
      simp [startedWith?, prompt]
    rw [← lineCall_prompt prompt] at took
    have behind := took.follows policy [] (by simp [silent])
    rw [List.append_nil] at behind
    simp [Follows, calls, started, kept, behind]

/-- Finishing calls a matcher that wants it once and no other one. -/
theorem finish_told (stage : Stage) (slot : Slot) (table : RegionTable) (totalRows : Nat) :
    (Journal.hooksOf (slot.finish stage table totalRows).2.2 slot.name stage.id).map (·.1) =
      if slot.wantsFinish then [.finish (stage.scene slot.name none).view totalRows] else [] := by
  -- The last hook is called exactly if the slot wants it.
  by_cases wanted : slot.wantsFinish = true
  · rw [Slot.finish_of_wanting wanted, if_pos wanted]
    dsimp only
    rw [Journal.hooksOf_hookJournal rfl]
    rfl
  · rw [Slot.finish_of_not_wanting (by simpa using wanted), if_neg wanted]
    rfl

/-- Once its invocation completes, the calls of a matcher follow its attendance to the end. -/
theorem Attends.complete (attends : attendance.Attends attendance.life.lines told own)
    {exitCode : Int} {totalRows : Nat}
    (completed : attendance.life.ending = .finished exitCode totalRows)
    (scheduled : stage.id = attendance.id) (rows : stage.rows = attendance.life.received)
    {retained : List LogicalLine}
    (kept : attendance.waits = true → retained = attendance.life.lines) (table : RegionTable) :
    attendance.Follows (told ++ own.elim [] fun slot =>
      Journal.hooksOf (slot.complete stage
        { attendance.life.invocation with exitCode := some exitCode } retained totalRows table).2.2
        slot.name stage.id) := by
  -- Whichever slot is finished, the call shows the rows and the total of the completion.
  have finishes (slot : Slot) : [Call.finish (stage.scene slot.name none).view totalRows] =
      attendance.finishCalls := by
    simp [finishCalls, completed, Scene.view, Stage.scene, scheduled, rows]
  cases attends with
  | unseated prompt unwanted =>
    rename_i verdict
    cases verdict <;> simp_all [Follows, calls, startedWith?]
  | waiting waits policy status =>
    rename_i slot
    -- The matcher is started only now, given the retained lines, and finished after them.
    let invocation := { attendance.life.invocation with exitCode := some exitCode }
    have started : attendance.startedWith? = some invocation := by
      simp [startedWith?, waits, completed, invocation]
    let caught := slot.catchUp stage invocation table attendance.life.lines
    have keeps : caught.1.name = slot.name ∧ caught.1.finishPolicy = slot.finishPolicy :=
      slot.catchUp_keeps stage invocation table attendance.life.lines
    have ended := finish_told stage caught.1 caught.2.1 totalRows
    rw [finishes, keeps.1] at ended
    have handed : ∀ line ∈ attendance.life.lines,
        Call.line (stage.scene slot.name (some line)).view line = attendance.lineCall line := by
      intro line _
      simp [lineCall, waits, Scene.view, Stage.scene, scheduled, rows]
    rw [kept waits, List.nil_append, Option.elim_some, Slot.complete_eq]
    dsimp only
    rw [Journal.hooksOf_append]
    rcases Took.catchUp status invocation table handed with
      ⟨told, same, took⟩ | ⟨verdict, unwanted, same, unfinished⟩
    · have behind := took.follows (keeps.2.trans policy) _ ended
      rw [same]
      simp [Follows, calls, started, behind, caught, invocation]
    · rw [Slot.finish_of_not_wanting unfinished, same]
      cases verdict <;> simp_all [Follows, calls]
  | taking prompt policy took =>
    rename_i slot told
    have started : attendance.startedWith? = some attendance.life.invocation := by
      simp [startedWith?, prompt]
    -- Its lines were delivered as they came, so only the finishing is left.
    have ready : slot.status ≠ .waiting := took.not_waiting
    rw [← lineCall_prompt prompt] at took
    have ended := finish_told stage slot table totalRows
    rw [finishes] at ended
    have behind := took.follows policy _ ended
    simp only [Option.elim_some, Slot.complete, Slot.catchUp_of_not_waiting ready,
      List.nil_append]
    simp [Follows, calls, started, behind]

end Attendance

end Annotator

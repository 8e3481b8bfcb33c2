import Annotator.Proofs.Tracker.Attendance
import Annotator.Script

/-! Over any course of operations the hooks of every matcher are called by one protocol. -/

namespace Annotator

namespace Registry

/-- A registry accepts a factory when it is open and holds none of its name. -/
theorem register_eq_ok_iff {registry next : Registry} {factory : Factory} :
    registry.register factory = .ok next ↔
      registry.isSealed = false ∧ factory.name ∉ registry.names ∧
        next = { registry with factories := registry.factories ++ [factory] } := by
  -- A registry that is not sealed takes a factory of a new name.
  unfold register
  cases registry.isSealed with
  | true => simp
  | false =>
    by_cases present : registry.names.contains factory.name = true
    · simp [List.contains_iff_mem.mp present]
    · have absent : factory.name ∉ registry.names := by simpa using present
      simp [absent, eq_comm]

/-- Registries are made by registering factories one after the other and by sealing. -/
inductive Registered : Registry → Prop
  /-- At first no factory is registered. -/
  | empty : Registered {}
  /-- A factory was accepted. -/
  | register {registry next : Registry} (registered : Registered registry) (factory : Factory)
    (accepted : registry.register factory = .ok next) : Registered next
  /-- The registry was sealed. -/
  | close {registry : Registry} (registered : Registered registry) : Registered registry.close

/-- The names in a registry are distinct. -/
theorem Registered.names_nodup {registry : Registry} (registered : registry.Registered) :
    registry.names.Nodup := by
  -- Induction on the registrations, each of which adds a new name.
  induction registered with
  | empty => exact List.nodup_nil
  | register registered factory accepted ih =>
    obtain ⟨_, absent, rfl⟩ := register_eq_ok_iff.mp accepted
    rw [names, List.map_append, List.nodup_append]
    refine ⟨ih, by simp, ?_⟩
    intro old present new added same
    rw [List.map_singleton, List.mem_singleton] at added
    exact absent (added ▸ same ▸ present)
  | close registered ih => exact ih

end Registry

namespace Attendance

variable {attendance : Attendance} {lines : List LogicalLine} {told : List (Call × Verdict)}
  {name : String} {own : Option Slot}

/-- A step on all slots adds to the hook calls of a matcher those of the step on its slot. -/
theorem hooks_each {slots : List Slot} (singles : Slot.Singles slots name own)
    (id : InvocationId) (step : Slot → RegionTable → Slot × RegionTable × Journal)
    (frames : ∀ slot ∈ slots, ∀ table, slot.Frames slot.Own id table (step slot table))
    (table : RegionTable) :
    ∃ between,
      Slot.Singles (Slot.each step slots table).1 name
        (own.map fun slot => (step slot between).1) ∧
      Journal.hooksOf (Slot.each step slots table).2.2 name id =
        own.elim [] fun slot => Journal.hooksOf (step slot between).2.2 slot.name id := by
  -- The other slots are called under their own names.
  obtain ⟨between, kept, calls, _⟩ := singles.each frames table
  refine ⟨between, kept, ?_⟩
  rw [Journal.hooksOf, calls]
  cases own with
  | none => rfl
  | some slot =>
    have same : slot.name = name := singles.named slot rfl
    rw [Option.elim_some, Option.elim_some, same, Journal.hooksOf]

/-- A line that may not have been completed is one more line that the matcher attends to. -/
theorem Attends.deliverIfAny (attends : attendance.Attends lines told own) {running : Running}
    (singles : Slot.Singles running.slots name own) {given : Option LogicalLine}
    (last : ∀ line, given = some line → line.endRow + 1 = running.rows.size) (limits : Limits)
    (table : RegionTable) :
    ∃ own', Slot.Singles (running.deliverIfAny attendance.id limits table given).1.slots name own' ∧
      attendance.Attends (lines ++ given.toList)
        (told ++ Journal.hooksOf (running.deliverIfAny attendance.id limits table given).2.2 name
          attendance.id) own' := by
  -- Without a line nothing happens.
  cases given with
  | none => exact ⟨own, singles, by simpa [Running.deliverIfAny] using attends⟩
  | some line =>
    -- Each slot keeps to itself, so the line reaches the one of the name as if it were alone.
    let stage : Stage := { id := attendance.id, limits, rows := running.rows }
    have frames : ∀ slot ∈ running.slots, ∀ table, slot.Frames slot.Own stage.id table
        (slot.deliver stage table line) :=
      fun slot _ table => Slot.deliver_own stage slot table line
    obtain ⟨between, kept, hooks⟩ := hooks_each singles attendance.id _ frames table
    rw [Running.deliverIfAny, Running.deliver_eq]
    dsimp only
    rw [hooks]
    exact ⟨_, kept, attends.deliver rfl (last line rfl).symm between⟩

/-- While an invocation runs its matcher attends to it, and then its calls have followed. -/
inductive Kept (attendance : Attendance) (name : String) (told : List (Call × Verdict)) :
    Option Running → Prop
  /-- The slot of the matcher tells which calls may come. -/
  | running {running : Running} {own : Option Slot}
    (singles : Slot.Singles running.slots name own)
    (attends : attendance.Attends attendance.life.assembled.1 told own) :
    Kept attendance name told (some running)
  /-- No further call comes. -/
  | released (follows : attendance.Follows told) : Kept attendance name told none

/-- Lines are retained for a matcher that waits. -/
theorem Attends.retains (attends : attendance.Attends lines told own)
    (waits : attendance.waits = true) {running : Running}
    (singles : Slot.Singles running.slots name own) : running.hasWaiting = true := by
  -- A matcher that waits sits in a slot that does.
  cases attends with
  | unseated prompt unwanted => simp [waits] at prompt
  | taking prompt policy took => simp [waits] at prompt
  | waiting waits policy status => exact Running.hasWaiting_of_singles singles status

/-- A row that was pushed keeps to the attendance of each matcher. -/
theorem Attends.pushRunning (attends : attendance.Attends attendance.life.assembled.1 told own)
    {running : Running} (singles : Slot.Singles running.slots name own) {names : List String}
    (mirrors : attendance.life.Mirrors names running) (limits : Limits) (table : RegionTable)
    (row : String) (wraps : Bool) :
    Kept { attendance with life := attendance.life.moved (.pushRow attendance.id row wraps) } name
      (told ++ Journal.hooksOf
        (running.push attendance.id limits table row wraps).2.2 name attendance.id)
      (some (running.push attendance.id limits table row wraps).1) := by
  -- The row grows the buffer and the rows first, and the completed line is delivered then.
  let grown : Running := { running with
    buffer := (running.buffer.push row wraps).2
    rows := running.rows.push row }
  -- The line that the row completes ends with it.
  have last : ∀ line, (running.buffer.push row wraps).1 = some line →
      line.endRow + 1 = grown.rows.size :=
    fun line held => ((mirrors.inStep.push row wraps).2 line held).2
  have present : Slot.Singles grown.slots name own := singles
  obtain ⟨own', kept, attended⟩ := attends.deliverIfAny present last limits table
  refine .running kept ?_
  have lines := Life.assembled_push attendance.life attendance.id row wraps
  rw [← mirrors.buffer] at lines
  rw [lines]
  exact attended.onward rfl

/-- A completed invocation leaves hook calls that followed the attendance of each matcher. -/
theorem Attends.completeRunning (attends : attendance.Attends attendance.life.assembled.1 told own)
    {running : Running} (singles : Slot.Singles running.slots name own) {names : List String}
    (mirrors : attendance.life.Mirrors names running) (limits : Limits) (table : RegionTable)
    (exitCode : Int) (totalRows : Nat) :
    Follows { attendance with
        life := { attendance.life with ending := .finished exitCode totalRows } }
      (told ++ Journal.hooksOf
        (running.complete attendance.id limits table exitCode totalRows).2 name
        attendance.id) := by
  -- The last line is delivered before the slots are completed, as one more line of the life.
  let settled : Running := { running with buffer := running.buffer.flush.2 }
  let given := running.buffer.flush.1
  let flushed := settled.deliverIfAny attendance.id limits table given
  -- The unfinished line ends with the last row received.
  have last : ∀ line, given = some line → line.endRow + 1 = settled.rows.size :=
    fun line held => (mirrors.inStep.pending line held).2
  have present : Slot.Singles settled.slots name own := singles
  obtain ⟨own', kept, attended⟩ := attends.deliverIfAny present last limits table
  have frame : settled.Frames (fun _ => True) attendance.id table flushed :=
    Running.deliverIfAny_frames fun _ _ _ _ _ _ => trivial
  let life : Life := { attendance.life with ending := .finished exitCode totalRows }
  have lines : life.lines = attendance.life.assembled.1 ++ given.toList := by
    simp only [life, Life.lines, given, mirrors.buffer]
    rfl
  rw [← lines] at attended
  have onward : Attends { attendance with life } life.lines _ own' := attended.onward rfl
  let stage : Stage := { id := attendance.id, limits, rows := flushed.1.rows }
  have retained : attendance.waits = true → flushed.1.lines.toList = life.lines := by
    intro waits
    have waiting : settled.hasWaiting = true := attends.retains waits present
    rw [(settled.deliverIfAny_retains attendance.id limits table given).2 waiting, lines]
    exact congrArg (· ++ given.toList) (mirrors.complete waiting)
  have frames : ∀ slot ∈ flushed.1.slots, ∀ table, slot.Frames slot.Own stage.id table
      (slot.complete stage { flushed.1.invocation with exitCode := some exitCode }
        flushed.1.lines.toList totalRows table) :=
    fun slot _ table => Slot.complete_own stage _ slot table _ totalRows
  obtain ⟨between, _, hooks⟩ := hooks_each kept attendance.id _ frames flushed.2.1
  have same : flushed.1.invocation = life.invocation :=
    frame.invocation.trans mirrors.invocation
  have whole : (running.complete attendance.id limits table exitCode totalRows).2 =
      flushed.2.2 ++ (Slot.each (Slot.complete stage
        { flushed.1.invocation with exitCode := some exitCode } flushed.1.lines.toList totalRows)
        flushed.1.slots flushed.2.1).2.2 := rfl
  rw [whole, Journal.hooksOf_append, ← List.append_assoc, hooks, same]
  exact onward.complete rfl rfl (frame.rows.trans mirrors.rows) retained between

/-- Every operation keeps to the attendance of a matcher. -/
theorem Kept.perform {tracker : Tracker} (bounded : tracker.Bounded)
    (issued : attendance.id.number < tracker.nextId) {names : List String}
    (shown : attendance.life.Shown names (tracker.running? attendance.id))
    (kept : attendance.Kept name told (tracker.running? attendance.id)) (operation : Operation) :
    Kept { attendance with life := attendance.life.advance attendance.id operation } name
      (told ++ Journal.hooksOf (tracker.perform operation).2.2 name attendance.id)
      ((tracker.perform operation).2.1.running? attendance.id) := by
  -- Only work on the invocation itself calls its matchers.
  by_cases targeted : operation.target? = some attendance.id
  · cases present : tracker.running? attendance.id with
    | none =>
      -- Nothing happens to an invocation that has ended.
      rw [present] at shown kept
      cases shown with
      | released ended =>
        rw [Tracker.perform_gone targeted present, Life.advance_ended ended, present,
          Journal.hooksOf_nil, List.append_nil]
        exact kept
    | some running =>
      rw [present] at shown kept
      obtain ⟨still, mirrors⟩ := shown
      obtain ⟨singles, attends⟩ := kept
      rw [Life.advance_running targeted still]
      cases operation with
      | pushRow other row wraps =>
        cases targeted
        rw [Tracker.perform_pushRow present]
        dsimp only
        rw [Tracker.running?_update_self present]
        exact attends.pushRunning singles mirrors tracker.limits tracker.table row wraps
      | finish other exitCode totalRows =>
        cases targeted
        rw [Tracker.perform_finish present]
        have released : (tracker.release attendance.id).running? attendance.id = none :=
          Tracker.running?_release_self
        exact released.symm ▸ .released
          (attends.completeRunning singles mirrors tracker.limits tracker.table exitCode totalRows)
      | abandon other =>
        cases targeted
        rw [Tracker.perform_abandon present]
        dsimp only
        rw [Tracker.running?_release_self, Journal.hooksOf_nil, List.append_nil]
        have onward : Attends { attendance with
            life := { attendance.life with ending := .abandoned } } _ told _ :=
          attends.onward rfl
        exact .released (onward.follows fun _ _ => by simp)
      | begin invocation => cases targeted
      | evict region => cases targeted
      | evictInvocation other => cases targeted
  · have elsewhere := Tracker.addressee?_ne issued targeted
    rw [Life.advance_elsewhere targeted, Tracker.running?_perform_elsewhere bounded elsewhere,
      Journal.hooksOf_of_callsOf (Tracker.calls_perform_elsewhere elsewhere name),
      List.append_nil]
    exact kept

/-- The part of a matcher that attaches when an invocation begins, as the invocation goes on. -/
def ofAttachment (tracker : Tracker) (attachment : Attachment) (life : Life) : Attendance :=
  -- Only matchers that are not fast wait, and only if they are to.
  { id := tracker.upcoming, waits := !attachment.fast && tracker.deferBuffered
    finishPolicy := attachment.finishPolicy, life }

/-- Beginning an invocation calls the hooks of a matcher as its attendance asks for. -/
theorem kept_begin {tracker : Tracker} (bounded : tracker.Bounded)
    (distinct : tracker.registry.names.Nodup) (invocation : Invocation) {attachment : Attachment}
    (attached : attachment ∈ (tracker.registry.resolve tracker.upcoming invocation).1) :
    (ofAttachment tracker attachment { invocation }).Kept attachment.name
      (Journal.hooksOf (tracker.perform (.begin invocation)).2.2 attachment.name tracker.upcoming)
      ((tracker.perform (.begin invocation)).2.1.running? tracker.upcoming) := by
  -- The attachments differ in their names, so one slot at most is that of the matcher.
  have names : ((tracker.registry.resolve tracker.upcoming invocation).1.map (·.name)).Nodup :=
    distinct.sublist (Registry.resolve_names _ _ _)
  have seated : (ofAttachment tracker attachment { invocation }).Attends []
      (Journal.hooksOf (Tracker.seat tracker.deferBuffered tracker.upcoming invocation
        attachment).2 attachment.name tracker.upcoming)
      (Tracker.seat tracker.deferBuffered tracker.upcoming invocation attachment).1 :=
    Attends.seat rfl rfl
  obtain ⟨singles, calls⟩ : Slot.Singles (Tracker.attachAll tracker.deferBuffered tracker.upcoming
      invocation (tracker.registry.resolve tracker.upcoming invocation).1).1 _ _ ∧ _ :=
    Tracker.attachAll_singles names attached
  -- Resolving calls no hook.
  have asked : Journal.hooksOf (tracker.registry.resolve tracker.upcoming invocation).2
      attachment.name tracker.upcoming = [] :=
    (Registry.resolve_onlyCalls _ _ _).hooksOf_eq_nil fun call named => named.2.2
  rw [Tracker.running?_perform_begin bounded, if_pos rfl, Tracker.perform_begin]
  dsimp only
  rw [Journal.hooksOf_append, asked, List.nil_append, Journal.hooksOf, calls]
  -- How the slots were made no longer matters.
  generalize (Tracker.attachAll tracker.deferBuffered tracker.upcoming invocation
    (tracker.registry.resolve tracker.upcoming invocation).1).1 = slots at singles ⊢
  exact .running singles seated

/-- A course that starts with the beginning of an invocation keeps to each matcher's attendance. -/
theorem course_kept {tracker : Tracker} (bounded : tracker.Bounded)
    (distinct : tracker.registry.names.Nodup) (invocation : Invocation) {attachment : Attachment}
    (attached : attachment ∈ (tracker.registry.resolve tracker.upcoming invocation).1)
    (operations : List Operation) :
    (ofAttachment tracker attachment (Life.after tracker.upcoming invocation operations)).Kept
      attachment.name
      (Journal.hooksOf (tracker.course (.begin invocation :: operations)).journal attachment.name
        tracker.upcoming)
      ((tracker.course (.begin invocation :: operations)).tracker.running? tracker.upcoming) := by
  -- Induction on the operations from their end, each of which keeps what is attended.
  induction operations using List.reverseRecOn with
  | nil =>
    rw [(Tracker.course_singleton ..).1, (Tracker.course_singleton ..).2]
    exact kept_begin bounded distinct invocation attached
  | append_singleton operations operation ih =>
    have next := ih.perform (Tracker.course_settled bounded _).1
      (Tracker.course_issued bounded invocation operations)
      (Tracker.course_life bounded invocation operations) operation
    rw [← List.cons_append, Tracker.course_concat, Life.after_concat, Course.follow_tracker,
      Course.follow_journal, Journal.hooksOf_append]
    exact next

/-- Calls that are kept to the attendance of a matcher follow it at any time. -/
theorem Kept.follows {found : Option Running} {names : List String}
    (kept : attendance.Kept name told found) (shown : attendance.life.Shown names found) :
    attendance.Follows told := by
  -- What still runs has followed its attendance so far.
  cases kept with
  | released follows => exact follows
  | running singles attends =>
    cases shown with
    | running still mirrors => exact attends.follows fun _ _ => by simp [still]

end Attendance

/--
The hooks of an attached matcher are called exactly as its attendance and its verdicts tell.

The operations behind the beginning are arbitrary, so the same holds at every moment of a course.
-/
theorem hooks_follow_attendance {registry : Registry} (registered : registry.Registered)
    (deferBuffered : Bool) (limits : Limits) (before : List Operation) (invocation : Invocation)
    (after : List Operation) :
    let start := Tracker.ofRegistry registry deferBuffered limits
    let id := (start.course before).tracker.upcoming
    ∀ attachment ∈ (registry.resolve id invocation).1,
      Attendance.Follows
        { id, waits := !attachment.fast && deferBuffered
          finishPolicy := attachment.finishPolicy
          life := Life.after id invocation after }
        (Journal.hooksOf (start.course (before ++ .begin invocation :: after)).journal
          attachment.name id) := by
  -- The attendance is kept from the beginning of the invocation on.
  intro start id attachment attached
  -- The operations in front lead to a tracker that still has the registry and the scheduling.
  obtain ⟨bounded, settled⟩ := Tracker.course_settled
    (Tracker.bounded_ofRegistry registry deferBuffered limits) before
  have distinct : (start.course before).tracker.registry.names.Nodup := by
    rw [settled.registry]
    exact registered.close.names_nodup
  have present : attachment ∈ ((start.course before).tracker.registry.resolve
      (start.course before).tracker.upcoming invocation).1 := by
    rw [settled.registry]
    exact attached
  have kept := Attendance.course_kept bounded distinct invocation present after
  have follows := kept.follows (Tracker.course_life bounded invocation after)
  have earlier : Journal.hooksOf (start.course before).journal attachment.name id = [] :=
    Journal.hooksOf_of_callsOf (Tracker.course_calls_unissued
      (Tracker.bounded_ofRegistry registry deferBuffered limits) before (Nat.le_refl _) _)
  rw [(Tracker.course_append start before _).2, Journal.hooksOf_append, earlier, List.nil_append]
  rw [Attendance.ofAttachment, settled.deferBuffered] at follows
  exact follows

/--
A matcher that waited for its invocation is started and given the wrapped line at the end.

It is finished after it stopped, while another one that stopped is not, as the policies ask.
-/
theorem hooks_follow_attendance_late :
    let brief : Script := { name := "brief", fast := true, other := [.stop] }
    let late : Script := { name := "late", other := [.stop], finishPolicy := .always }
    let registry : Registry := { factories := [brief.factory, late.factory] }
    let start := Tracker.ofRegistry registry true {}
    let before : List Operation := [.begin { command := "top" }]
    let after : List Operation :=
      [.pushRow ⟨2⟩ "a" true, .pushRow ⟨1⟩ "b" false, .pushRow ⟨2⟩ "c" true, .finish ⟨2⟩ 3 2]
    let attachment : Attachment :=
      { name := "late", fast := false, finishPolicy := .always
        matcher := { State := Nat, machine := late.machine, state := 0 } }
    let journal := (start.course (before ++ .begin { command := "ls" } :: after)).journal
    let view : View := { invocation := ⟨2⟩, rowCount := 2 }
    let wrapped : LogicalLine := { startRow := 0, first := "a", rest := ["c"] }
    journal.hooksOf "brief" ⟨2⟩ =
        [(.start { command := "ls" }, .wanted), (.line view wrapped, .stop)] ∧
      journal.hooksOf "late" ⟨2⟩ =
        [(.start { command := "ls", exitCode := some 3 }, .wanted), (.line view wrapped, .stop),
          (.finish view 2, .done)] ∧
      registry.Registered ∧ attachment ∈ (registry.resolve ⟨2⟩ { command := "ls" }).1 ∧
      Attendance.Follows
        { id := ⟨2⟩, waits := true, finishPolicy := .always
          life := Life.after ⟨2⟩ { command := "ls" } after }
        (journal.hooksOf "late" ⟨2⟩) := by
  -- Both factories are registered, and the one that waits attaches.
  intro brief late registry start before after attachment journal view wrapped
  have registered : registry.Registered :=
    .register (.register .empty brief.factory rfl) late.factory rfl
  have attached : attachment ∈ (registry.resolve ⟨2⟩ { command := "ls" }).1 := .tail _ (.head _)
  -- The calls themselves are what the journal of the course tells.
  exact ⟨by decide, by decide, registered, attached,
    hooks_follow_attendance registered true {} before { command := "ls" } after attachment attached⟩

end Annotator

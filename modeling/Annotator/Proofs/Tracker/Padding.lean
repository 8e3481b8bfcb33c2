import Annotator.Proofs.Registry.Padding
import Annotator.Proofs.Tracker.Regime
import Annotator.Proofs.Tracker.Scheduling

/-!
Padding around commands and aliases and slashes at the end of directories do not show: what built-in
matchers are given is free of them, and starting a built-in matcher reads the exit code alone.
-/

namespace Annotator

/-- A matcher overlooks padding when starting it does not depend on it. -/
def Matcher.Overlooks (matcher : Matcher) : Prop :=
  -- Nothing else that a matcher is given tells of the command or the directory.
  ∀ invocation other : Invocation, invocation.SamePadded other →
    ∀ state, matcher.machine.onStart invocation state = matcher.machine.onStart other state

/-- Invocations that are the same but for padding may have succeeded alike. -/
theorem Invocation.SamePadded.mayHaveSucceeded {invocation other : Invocation}
    (same : invocation.SamePadded other) :
    invocation.mayHaveSucceeded = other.mayHaveSucceeded := by
  -- Padding does not touch the exit code.
  rw [Invocation.mayHaveSucceeded, Invocation.mayHaveSucceeded, same.exitCode]

/-- Invocations that are the same but for padding are so still with one exit code. -/
theorem Invocation.SamePadded.completed {invocation other : Invocation}
    (same : invocation.SamePadded other) (exitCode : Option Int) :
    Invocation.SamePadded { invocation with exitCode } { other with exitCode } :=
  -- Padding does not touch the exit code.
  { same with exitCode := rfl }

/-- Matchers that overlook padding go on doing so as they work, for their hooks stay the same. -/
def Regime.overlooking : Regime where
  holds _ matcher := matcher.Overlooks
  stores _ := True
  fresh := trivial
  start _ overlooks := overlooks
  line _ _ overlooks stored := ⟨overlooks, stored⟩
  finish _ _ overlooks stored := ⟨overlooks, stored⟩
  remove _ stored := stored

/-- Built-in matchers overlook padding. -/
theorem Builtin.factory_overlooks {builtin : Builtin} (known : builtin ∈ all)
    (settings : MatcherSettings) (make : MakeSettings) :
    Regime.overlooking.Admits (builtin.factory settings make) := by
  -- All that a built-in matcher asks of the invocation is whether it may have succeeded.
  have listing (listing : Listing) :
      Regime.overlooking.Admits (listing.factory settings) := by
    intro site notes matcher built
    cases built
    intro invocation other same state
    simp only [Listing.machine, same.mayHaveSucceeded]
  -- Six of the eight are listings.
  simp only [all, List.mem_cons, List.not_mem_nil, or_false] at known
  rcases known with rfl | rfl | rfl | rfl | rfl | rfl | rfl | rfl
  · exact listing _
  · exact listing _
  · exact listing _
  · exact listing _
  · exact listing _
  · exact listing _
  · intro site notes matcher built
    cases built
    intro invocation other same state
    simp only [WorkTree.machine, same.mayHaveSucceeded]
  · intro site notes matcher built
    cases built
    exact fun _ _ _ _ => rfl

/-- Two steps leave the same when they differ at most in what they tell. -/
def LeavesSame {α : Type 1} (result other : α × RegionTable × Journal) : Prop :=
  -- Journals name the invocations as they were given.
  result.1 = other.1 ∧ result.2.1 = other.2.1

namespace Matcher

variable {matcher : Matcher} {invocation other : Invocation}

/-- A matcher that overlooks padding is started alike. -/
theorem Overlooks.start_eq (overlooks : matcher.Overlooks) (same : invocation.SamePadded other) :
    matcher.start invocation = matcher.start other := by
  -- Starting is the one hook that sees the invocation.
  rw [start, start, overlooks invocation other same]

end Matcher

namespace Slot

variable {stage : Stage} {slot : Slot} {table : RegionTable} {invocation other : Invocation}

/-- A matcher that overlooks padding catches up alike. -/
theorem catchUp_padded (overlooks : slot.matcher.Overlooks) (same : invocation.SamePadded other)
    (lines : List LogicalLine) :
    LeavesSame (slot.catchUp stage invocation table lines)
      (slot.catchUp stage other table lines) := by
  -- A slot that waits is started alike, and another does nothing.
  by_cases waiting : slot.status = .waiting
  · rw [catchUp_of_waiting waiting, catchUp_of_waiting waiting, overlooks.start_eq same]
    exact ⟨rfl, rfl⟩
  · rw [catchUp_of_not_waiting waiting, catchUp_of_not_waiting waiting]
    exact ⟨rfl, rfl⟩

/-- A matcher that overlooks padding is completed alike. -/
theorem complete_padded (overlooks : slot.matcher.Overlooks) (same : invocation.SamePadded other)
    (lines : List LogicalLine) (totalRows : Nat) :
    LeavesSame (slot.complete stage invocation lines totalRows table)
      (slot.complete stage other lines totalRows table) := by
  -- The slots have caught up alike, and finishing does not see the invocation.
  obtain ⟨slots, tables⟩ : LeavesSame (slot.catchUp stage invocation table lines)
      (slot.catchUp stage other table lines) := catchUp_padded overlooks same lines
  rw [complete_eq, complete_eq]
  dsimp only
  rw [slots, tables]
  exact ⟨rfl, rfl⟩

/-- Passes over the same slots leave the same if their steps do. -/
theorem each_leavesSame {step otherStep : Slot → RegionTable → Slot × RegionTable × Journal}
    {slots : List Slot}
    (steps : ∀ slot ∈ slots, ∀ table, LeavesSame (step slot table) (otherStep slot table))
    (table : RegionTable) :
    LeavesSame (each step slots table) (each otherStep slots table) := by
  -- Induction on the slots, which hand the same table on.
  induction slots generalizing table with
  | nil => exact ⟨rfl, rfl⟩
  | cons slot rest ih =>
    obtain ⟨first, tables⟩ := steps slot List.mem_cons_self table
    obtain ⟨others, left⟩ := ih (fun other member => steps other (List.mem_cons_of_mem slot member))
      (otherStep slot table).2.1
    simp only [LeavesSame, each, first, tables, others, left, true_and]

end Slot

namespace Running

/-- Two running invocations are the same but for padding. -/
structure SamePadded (running other : Running) : Prop where
  /-- They were begun as invocations that are the same but for it. -/
  invocation : running.invocation.SamePadded other.invocation
  /-- The slots are the same. -/
  slots : running.slots = other.slots
  /-- The buffered rows are the same. -/
  buffer : running.buffer = other.buffer
  /-- The received rows are the same. -/
  rows : running.rows = other.rows
  /-- The retained lines are the same. -/
  lines : running.lines = other.lines

variable {running other : Running} {id : InvocationId} {limits : Limits} {table : RegionTable}

/-- A line that may not have been completed is delivered alike. -/
theorem SamePadded.deliverIfAny (same : running.SamePadded other) (given : Option LogicalLine) :
    (running.deliverIfAny id limits table given).1.SamePadded
        (other.deliverIfAny id limits table given).1 ∧
      (running.deliverIfAny id limits table given).2 =
        (other.deliverIfAny id limits table given).2 := by
  -- All that a line meets is the same on both sides.
  obtain ⟨invocation, slots, buffer, rows, lines⟩ := running
  obtain ⟨otherInvocation, _, _, _, _⟩ := other
  obtain ⟨invocations, rfl, rfl, rfl, rfl⟩ := same
  cases given with
  | none => exact ⟨⟨invocations, rfl, rfl, rfl, rfl⟩, rfl⟩
  | some line => exact ⟨⟨invocations, rfl, rfl, rfl, rfl⟩, rfl⟩

/-- A row is pushed alike. -/
theorem SamePadded.push (same : running.SamePadded other) (row : String) (wraps : Bool) :
    (running.push id limits table row wraps).1.SamePadded
        (other.push id limits table row wraps).1 ∧
      (running.push id limits table row wraps).2 = (other.push id limits table row wraps).2 := by
  -- The buffers are the same, so they complete the same line or none.
  let grown : Running := { running with
    buffer := (running.buffer.push row wraps).2
    rows := running.rows.push row }
  let otherGrown : Running := { other with
    buffer := (running.buffer.push row wraps).2
    rows := running.rows.push row }
  have alike : grown.SamePadded otherGrown := { same with buffer := rfl, rows := rfl }
  rw [push_eq, push_eq, ← same.buffer, ← same.rows]
  exact alike.deliverIfAny (running.buffer.push row wraps).1

/-- Invocations whose matchers overlook padding are completed alike. -/
theorem SamePadded.complete (same : running.SamePadded other)
    (overlooks : ∀ slot ∈ running.slots, slot.matcher.Overlooks) (exitCode : Int)
    (totalRows : Nat) :
    (running.complete id limits table exitCode totalRows).1 =
      (other.complete id limits table exitCode totalRows).1 := by
  -- The buffers are the same on both sides, and so is the last line.
  let settled : Running := { running with buffer := running.buffer.flush.2 }
  let otherSettled : Running := { other with buffer := running.buffer.flush.2 }
  have alike : settled.SamePadded otherSettled := { same with buffer := rfl }
  have kept : ∀ slot ∈ settled.slots, Regime.overlooking.Seats slot := overlooks
  -- The last line is delivered before the exit code is known.
  obtain ⟨flushed, left⟩ := alike.deliverIfAny running.buffer.flush.1
  have stored : Regime.overlooking.stores table := trivial
  obtain ⟨seats, -⟩ := Regime.kept_deliverIfAny kept stored id limits running.buffer.flush.1
  rw [complete_eq, complete_eq, ← same.buffer]
  dsimp only
  rw [← flushed.rows, ← flushed.lines, ← flushed.slots, ← congrArg Prod.fst left]
  refine (Slot.each_leavesSame (fun slot member table => ?_) _).2
  exact Slot.complete_padded (seats slot member) (flushed.invocation.completed (some exitCode)) _ _

end Running

/-- Two operations are the same but for the padding of an invocation that they begin. -/
inductive Operation.SamePadded : Operation → Operation → Prop
  /-- Invocations that are begun are the same but for padding. -/
  | begin {invocation other : Invocation} (same : invocation.SamePadded other) :
    SamePadded (.begin invocation) (.begin other)
  /-- The same is done. -/
  | same (operation : Operation) : SamePadded operation operation

namespace Tracker

variable {deferBuffered : Bool} {id : InvocationId} {invocation otherInvocation : Invocation}

/-- Matchers that overlook padding are seated alike. -/
theorem attachAll_padded {attachments : List Attachment}
    (overlooks : ∀ attachment ∈ attachments, attachment.matcher.Overlooks)
    (same : invocation.SamePadded otherInvocation) :
    (attachAll deferBuffered id invocation attachments).1 =
      (attachAll deferBuffered id otherInvocation attachments).1 := by
  -- Induction on the attachments, which start alike or wait.
  induction attachments with
  | nil => rfl
  | cons attachment rest ih =>
    obtain ⟨first, others⟩ := List.forall_mem_cons.mp overlooks
    have seated : (seat deferBuffered id invocation attachment).1 =
        (seat deferBuffered id otherInvocation attachment).1 := by
      unfold seat
      split
      · rfl
      · unfold attach
        rw [first.start_eq same]
        dsimp only
        split <;> rfl
    rw [attachAll_cons, attachAll_cons]
    dsimp only
    rw [seated, ih others]

/-- Two trackers are the same but for padding. -/
structure SamePadded (tracker other : Tracker) : Prop where
  /-- The factories decide alike. -/
  factories : tracker.registry.factories.Forall₂ Factory.SamePadded other.registry.factories
  /-- Running invocations were issued on one side. -/
  bounded : tracker.Bounded
  /-- They were issued on the other side. -/
  otherBounded : other.Bounded
  /-- The scheduling is the same. -/
  deferBuffered : tracker.deferBuffered = other.deferBuffered
  /-- The limits are the same. -/
  limits : tracker.limits = other.limits
  /-- The next number is the same. -/
  nextId : tracker.nextId = other.nextId
  /-- The regions are the same. -/
  table : tracker.table = other.table
  /-- The same invocations run. -/
  running : ∀ id, Option.Rel Running.SamePadded (tracker.running? id) (other.running? id)

variable {tracker other : Tracker} {operation otherOperation : Operation}

/-- Two operations are answered alike and leave trackers that are the same but for padding. -/
def SameAnswer (result other : Response × Tracker × Journal) : Prop :=
  -- Journals name the invocations as they were given.
  result.1 = other.1 ∧ result.2.1.SamePadded other.2.1

/-- Operations leave trackers that are the same if the invocation they are about is. -/
theorem SamePadded.onward (same : tracker.SamePadded other)
    (answer : (tracker.perform operation).1 = (other.perform otherOperation).1)
    (addressed : tracker.addressee? operation = other.addressee? otherOperation)
    (nextId : (tracker.perform operation).2.1.nextId = (other.perform otherOperation).2.1.nextId)
    (table : (tracker.perform operation).2.1.table = (other.perform otherOperation).2.1.table)
    (about : ∀ id, tracker.addressee? operation = some id →
      Option.Rel Running.SamePadded ((tracker.perform operation).2.1.running? id)
        ((other.perform otherOperation).2.1.running? id)) :
    SameAnswer (tracker.perform operation) (other.perform otherOperation) := by
  -- Registries, limits and numbers of the two trackers are as before, and the rest is given.
  obtain ⟨registry, deferBuffered, limits, _⟩ := tracker.perform_settled operation
  obtain ⟨otherRegistry, otherDeferBuffered, otherLimits, _⟩ := other.perform_settled otherOperation
  refine ⟨answer, ?_⟩
  constructor
  · rw [registry, otherRegistry]; exact same.factories
  · exact same.bounded.perform operation
  · exact same.otherBounded.perform otherOperation
  · rw [deferBuffered, otherDeferBuffered, same.deferBuffered]
  · rw [limits, otherLimits, same.limits]
  · exact nextId
  · exact table
  · exact related_perform same.bounded same.otherBounded same.running addressed about

/-- Beginning invocations that are the same but for padding seats the same matchers. -/
theorem SamePadded.begin (same : tracker.SamePadded other)
    (admitted : ∀ factory ∈ tracker.registry.factories, Regime.overlooking.Admits factory)
    (padded : invocation.SamePadded otherInvocation) :
    SameAnswer (tracker.perform (.begin invocation))
      (other.perform (.begin otherInvocation)) := by
  -- Both registries attach the same matchers, which start alike.
  have upcoming : tracker.upcoming = other.upcoming := by
    rw [Tracker.upcoming, Tracker.upcoming, same.nextId]
  have overlooks := Regime.holds_resolve admitted tracker.upcoming invocation
  have resolved : (tracker.registry.resolve tracker.upcoming invocation).1 =
      (other.registry.resolve tracker.upcoming otherInvocation).1 :=
    Registry.resolve_padded same.factories padded
  refine same.onward ?_ ?_ ?_ ?_ fun id addressed => ?_
  · rw [perform_begin, perform_begin, upcoming]
  · exact congrArg some upcoming
  · rw [perform_begin, perform_begin, same.nextId]
  · rw [perform_begin, perform_begin]
    exact same.table
  · cases addressed
    rw [running?_perform_begin same.bounded, running?_perform_begin same.otherBounded, if_pos rfl,
      if_pos upcoming, ← upcoming, ← same.deferBuffered, ← resolved,
      attachAll_padded overlooks padded]
    exact .some ⟨padded, rfl, rfl, rfl, rfl⟩

/-- Work on an invocation is the same but for padding if it is so while the invocation runs. -/
theorem SamePadded.targeted (same : tracker.SamePadded other) {id : InvocationId}
    (target : operation.target? = some id)
    (work : ∀ running otherRunning, tracker.running? id = some running →
      other.running? id = some otherRunning → running.SamePadded otherRunning →
        SameAnswer (tracker.perform operation) (other.perform operation)) :
    SameAnswer (tracker.perform operation) (other.perform operation) := by
  -- Either the invocation runs on both sides or on neither.
  rcases running_cases (same.running id) with
    ⟨gone, otherGone⟩ | ⟨running, otherRunning, found, otherFound, equal⟩
  · -- Both sides refuse the work for the same reason.
    rw [perform_gone target gone, perform_gone target otherGone, SameAnswer, refusal, refusal,
      wasIssued, wasIssued, same.nextId]
    exact ⟨rfl, same⟩
  · exact work running otherRunning found otherFound equal

/-- The same operation but for padding is answered alike and leaves the same. -/
theorem SamePadded.perform (same : tracker.SamePadded other)
    (governs : Regime.overlooking.Governs tracker)
    (admitted : ∀ factory ∈ tracker.registry.factories, Regime.overlooking.Admits factory)
    (padded : operation.SamePadded otherOperation) :
    SameAnswer (tracker.perform operation) (other.perform otherOperation) := by
  -- One case for each operation: beginnings may be padded, and the others are the same.
  cases padded with
  | begin padded => exact same.begin admitted padded
  | same =>
    cases operation with
    | begin invocation => exact same.begin admitted (.refl invocation)
    | pushRow id row wraps =>
      refine same.targeted rfl fun running otherRunning found otherFound equal => ?_
      obtain ⟨moved, left⟩ := equal.push row wraps
      refine same.onward ?_ rfl ?_ ?_ fun about addressed => ?_
      · rw [perform_pushRow found, perform_pushRow otherFound]
      · rw [perform_pushRow found, perform_pushRow otherFound]
        exact same.nextId
      · rw [perform_pushRow found, perform_pushRow otherFound, ← same.limits, ← same.table]
        exact congrArg Prod.fst left
      · cases addressed
        rw [perform_pushRow found, perform_pushRow otherFound, ← same.limits, ← same.table]
        dsimp only
        rw [running?_update_self found, running?_update_self otherFound]
        exact .some moved
    | finish id exitCode totalRows =>
      refine same.targeted rfl fun running otherRunning found otherFound equal => ?_
      have overlooks := governs.seats id running found
      refine same.onward ?_ rfl ?_ ?_ fun about addressed => ?_
      · rw [perform_finish found, perform_finish otherFound]
      · rw [perform_finish found, perform_finish otherFound]
        exact same.nextId
      · rw [perform_finish found, perform_finish otherFound, ← same.limits, ← same.table]
        exact equal.complete overlooks exitCode totalRows
      · cases addressed
        rw [perform_finish found, perform_finish otherFound]
        exact related_release id
    | abandon id =>
      refine same.targeted rfl fun running otherRunning found otherFound equal => ?_
      refine same.onward ?_ rfl ?_ ?_ fun about addressed => ?_
      · rw [perform_abandon found, perform_abandon otherFound]
      · rw [perform_abandon found, perform_abandon otherFound]
        exact same.nextId
      · rw [perform_abandon found, perform_abandon otherFound]
        exact same.table
      · cases addressed
        rw [perform_abandon found, perform_abandon otherFound]
        exact related_release id
    | evict id =>
      refine same.onward ?_ rfl same.nextId ?_ fun _ addressed => by cases addressed
      · rw [Tracker.perform, Tracker.perform, evict, evict, same.table]
      · rw [Tracker.perform, Tracker.perform, evict, evict, same.table]
    | evictInvocation id =>
      refine same.onward ?_ rfl same.nextId ?_ fun _ addressed => by cases addressed
      · rw [Tracker.perform, Tracker.perform, evictInvocation, evictInvocation, same.table]
      · rw [Tracker.perform, Tracker.perform, evictInvocation, evictInvocation, same.table]

/-- The same operations but for padding are answered alike and leave the same. -/
theorem SamePadded.course (same : tracker.SamePadded other)
    (governs : Regime.overlooking.Governs tracker)
    (admitted : ∀ factory ∈ tracker.registry.factories, Regime.overlooking.Admits factory)
    {operations others : List Operation} (padded : operations.Forall₂ Operation.SamePadded others) :
    (tracker.course operations).responses = (other.course others).responses ∧
      (tracker.course operations).tracker.SamePadded (other.course others).tracker := by
  -- Induction on the operations, each of which is answered alike.
  induction padded generalizing tracker other with
  | nil => exact ⟨rfl, same⟩
  | @cons operation otherOperation later otherLater first _ ih =>
    obtain ⟨answer, moved⟩ := same.perform governs admitted first
    have kept := governs.perform same.bounded admitted operation
    rw [← (tracker.perform_settled operation).registry] at admitted
    obtain ⟨answers, left⟩ := ih moved kept admitted
    rw [course_cons, course_cons]
    exact ⟨congrArg₂ _ answer answers, left⟩

/-- Trackers that are the same but for padding have the same active matchers. -/
theorem SamePadded.activeMatchers (same : tracker.SamePadded other) (id : InvocationId) :
    tracker.activeMatchers id = other.activeMatchers id := by
  -- What runs on both sides has the same slots.
  unfold Tracker.activeMatchers
  rcases running_cases (same.running id) with
    ⟨gone, otherGone⟩ | ⟨running, otherRunning, found, otherFound, equal⟩
  · rw [gone, otherGone]
  · rw [found, otherFound]
    dsimp only
    rw [equal.slots]

end Tracker

namespace Settings

variable {settings other : Settings}

/-- Trackers of built-in matchers under settings that are the same are the same but for padding. -/
theorem SamePadded.tracker (same : settings.SamePadded other) :
    settings.tracker.SamePadded other.tracker where
  -- Nothing runs and nothing is stored on either side.
  factories := same.factories
  bounded := Tracker.bounded_ofRegistry _ _ _
  otherBounded := Tracker.bounded_ofRegistry _ _ _
  deferBuffered := same.deferBuffered
  limits := same.limits
  nextId := rfl
  table := rfl
  running _ := .none

/-- All matchers of the tracker of built-in matchers overlook padding. -/
theorem tracker_admitted (settings : Settings) :
    ∀ factory ∈ settings.tracker.registry.factories, Regime.overlooking.Admits factory := by
  -- All factories are built-in ones.
  intro factory member
  obtain ⟨builtin, known, rfl⟩ := Registry.mem_builtins member
  exact Builtin.factory_overlooks known _ _

end Settings

/--
White space around commands and aliases and slashes at the end of directories do not show: the same
built-in matchers attach, every operation is answered alike and the same regions are left.
-/
theorem padding_does_not_show {settings other : Settings} (aliases : settings.SamePadded other)
    {operations others : List Operation}
    (padded : operations.Forall₂ Operation.SamePadded others) :
    let course := settings.tracker.course operations
    let otherCourse := other.tracker.course others
    (∀ id invocation otherInvocation, invocation.SamePadded otherInvocation →
      (settings.tracker.registry.resolve id invocation).1 =
        (other.tracker.registry.resolve id otherInvocation).1) ∧
    (∀ id invocation, isBlankText invocation.command = true →
      (settings.tracker.registry.resolve id invocation).1 = []) ∧
    course.responses = otherCourse.responses ∧
    course.tracker.table = otherCourse.tracker.table ∧
    ∀ id, course.tracker.activeMatchers id = otherCourse.tracker.activeMatchers id := by
  -- The two courses stay alike, as built-in matchers overlook padding.
  have governs : Regime.overlooking.Governs settings.tracker :=
    Regime.overlooking.governs_ofRegistry _ _ _
  obtain ⟨responses, left⟩ := aliases.tracker.course governs settings.tracker_admitted padded
  refine ⟨fun id invocation otherInvocation same => ?_, fun id invocation blank => ?_, responses,
    left.table, left.activeMatchers⟩
  · exact Registry.resolve_padded aliases.tracker.factories same
  · exact Registry.resolve_blank _ blank

/-- A padded alias is found for a padded command, in no directory and in one of slashes alone. -/
theorem padding_does_not_show_alias :
    let settings (text : String) : Settings :=
      { matchers :=
          { entries := [(Docker.containers.name, { aliases := [text] })], distinct := by simp } }
    let operations (command workingDir : String) : List Operation :=
      [.begin { command, workingDir }, .pushRow ⟨1⟩ "CONTAINER ID  NAMES" false,
        .pushRow ⟨1⟩ "4f  web" false, .finish ⟨1⟩ 0 2]
    ((settings "dps").tracker.course (operations "dps" "")).tracker.table.regions.map
        (·.matcher) = [Docker.containers.name] ∧
      ((settings "dps").tracker.course (operations "dps" "")).tracker.table =
        ((settings " dps").tracker.course (operations "\tdps\n" "//")).tracker.table := by
  -- The alias, the command and the directory are all padded on the other side.
  intro settings operations
  have bare : Text.Pads "dps".toList "dps".toList := ⟨[], [], by simp⟩
  have aliases : (settings "dps").SamePadded (settings " dps") := by
    refine ⟨rfl, rfl, rfl, .cons ⟨rfl, rfl, .cons ⟨"dps".toList, bare, ?_⟩ .nil, rfl, rfl⟩ .nil⟩
    exact ⟨[' '], [], by decide, List.forall_mem_singleton.mpr (by decide), by simp⟩
  have begun : Invocation.SamePadded { command := "dps", workingDir := "" }
      { command := "\tdps\n", workingDir := "//" } := by
    refine ⟨?_, ?_, rfl, rfl, rfl, rfl⟩
    · exact ⟨"dps".toList, bare, ['\t'], ['\n'], by decide,
        List.forall_mem_singleton.mpr (by decide), List.forall_mem_singleton.mpr (by decide)⟩
    · exact ⟨[], 0, 2, by decide⟩
  have same : (operations "dps" "").Forall₂ Operation.SamePadded (operations "\tdps\n" "//") :=
    .cons (.begin begun) (.cons (.same _) (.cons (.same _) (.cons (.same _) .nil)))
  obtain ⟨-, -, -, tables, -⟩ := padding_does_not_show aliases same
  exact ⟨by decide +kernel, tables⟩

end Annotator

import Annotator.Proofs.Tracker.History

/-! What every hook keeps of its matcher and of the region table is kept by every course. -/

namespace Annotator

/-- What is known of the matchers of each name and of the region table. -/
structure Regime where
  /-- What is known of a matcher that is seated under a name. -/
  holds : String → Matcher → Prop
  /-- What is known of the table. -/
  stores : RegionTable → Prop
  /-- It is known of the empty table. -/
  fresh : stores {}
  /-- Starting keeps what is known of a matcher. -/
  start : ∀ {name : String} {matcher : Matcher} (invocation : Invocation), holds name matcher →
    holds name (matcher.start invocation).matcher
  /-- A line keeps what is known of its matcher and of the table. -/
  line : ∀ {name : String} {matcher : Matcher} {table : RegionTable} (stage : Stage)
    (line : LogicalLine), holds name matcher → stores table →
      holds name (matcher.takeLine (stage.scene name (some line)) table line).1.matcher ∧
        stores (matcher.takeLine (stage.scene name (some line)) table line).2
  /-- Finishing keeps what is known of its matcher and of the table. -/
  finish : ∀ {name : String} {matcher : Matcher} {table : RegionTable} (stage : Stage)
    (totalRows : Nat), holds name matcher → stores table →
      holds name (matcher.finish (stage.scene name none) table totalRows).1.matcher ∧
        stores (matcher.finish (stage.scene name none) table totalRows).2
  /-- Removing regions keeps what is known of the table. -/
  remove : ∀ {table : RegionTable} (kept : Region → Bool), stores table →
    stores { table with regions := table.regions.filter kept }

namespace Regime

variable {regime : Regime} {slot : Slot} {table : RegionTable}

/-- What is known of its matcher holds for a slot. -/
def Seats (regime : Regime) (slot : Slot) : Prop :=
  -- The slot bears the name of the matcher.
  regime.holds slot.name slot.matcher

/-- A step on a slot keeps what is known. -/
structure Kept (regime : Regime) (result : Slot × RegionTable × Journal) : Prop where
  /-- It is still known of the matcher. -/
  seats : regime.Seats result.1
  /-- It is still known of the table. -/
  stores : regime.stores result.2.1

/-- A regime is kept when a slot takes a line. -/
theorem kept_deliver (seated : regime.Seats slot) (stored : regime.stores table) (stage : Stage)
    (line : LogicalLine) : regime.Kept (slot.deliver stage table line) := by
  -- A slot that is active runs its hook, and another is left as it is.
  by_cases active : slot.status = .active
  · rw [Slot.deliver_of_active active]
    obtain ⟨seats, stores⟩ := regime.line stage line seated stored
    exact ⟨seats, stores⟩
  · rw [Slot.deliver_of_not_active active]
    exact ⟨seated, stored⟩

/-- A regime is kept when a slot takes lines. -/
theorem kept_deliverLines (seated : regime.Seats slot) (stored : regime.stores table)
    (stage : Stage) (lines : List LogicalLine) :
    regime.Kept (slot.deliverLines stage table lines) := by
  -- Induction on the lines.
  induction lines generalizing slot table with
  | nil => exact ⟨seated, stored⟩
  | cons line rest ih =>
    have first := kept_deliver seated stored stage line
    have later := ih first.seats first.stores
    exact ⟨later.seats, later.stores⟩

/-- A regime is kept when a slot catches up. -/
theorem kept_catchUp (seated : regime.Seats slot) (stored : regime.stores table) (stage : Stage)
    (invocation : Invocation) (lines : List LogicalLine) :
    regime.Kept (slot.catchUp stage invocation table lines) := by
  -- Only a slot that waits does anything.
  by_cases waiting : slot.status = .waiting
  · rw [Slot.catchUp_of_waiting waiting]
    -- Starting stores nothing, and what follows is an ordinary delivery.
    let begun : Slot := { slot with
      matcher := (slot.matcher.start invocation).matcher
      status := .afterStart (slot.matcher.start invocation).answer }
    have started : regime.Seats begun := regime.start invocation seated
    have later := kept_deliverLines started stored stage lines
    exact ⟨later.seats, later.stores⟩
  · rw [Slot.catchUp_of_not_waiting waiting]
    exact ⟨seated, stored⟩

/-- A regime is kept when a slot finishes. -/
theorem kept_finish (seated : regime.Seats slot) (stored : regime.stores table) (stage : Stage)
    (totalRows : Nat) : regime.Kept (slot.finish stage table totalRows) := by
  -- A slot that wants its last call runs it, and another is left as it is.
  by_cases wanted : slot.wantsFinish = true
  · rw [Slot.finish_of_wanting wanted]
    obtain ⟨seats, stores⟩ := regime.finish stage totalRows seated stored
    exact ⟨seats, stores⟩
  · rw [Slot.finish_of_not_wanting (by simpa using wanted)]
    exact ⟨seated, stored⟩

/-- A regime is kept when a slot completes. -/
theorem kept_complete (seated : regime.Seats slot) (stored : regime.stores table) (stage : Stage)
    (invocation : Invocation) (lines : List LogicalLine) (totalRows : Nat) :
    regime.Kept (slot.complete stage invocation lines totalRows table) := by
  -- The slot catches up and then finishes.
  have caught := kept_catchUp seated stored stage invocation lines
  have finished := kept_finish caught.seats caught.stores stage totalRows
  exact ⟨finished.seats, finished.stores⟩

/-- A pass over slots keeps what is known when each of its steps does. -/
theorem kept_each {step : Slot → RegionTable → Slot × RegionTable × Journal}
    (keeps : ∀ slot table, regime.Seats slot → regime.stores table →
      regime.Kept (step slot table))
    {slots : List Slot} (seated : ∀ slot ∈ slots, regime.Seats slot)
    (stored : regime.stores table) :
    (∀ slot ∈ (Slot.each step slots table).1, regime.Seats slot) ∧
      regime.stores (Slot.each step slots table).2.1 := by
  -- Induction on the slots, which hand their table on.
  induction slots generalizing table with
  | nil => exact ⟨fun slot member => by simp [Slot.each] at member, stored⟩
  | cons slot rest ih =>
    have first := keeps slot table (seated slot List.mem_cons_self) stored
    obtain ⟨others, stores⟩ :=
      ih (fun other member => seated other (List.mem_cons_of_mem _ member)) first.stores
    refine ⟨fun other member => ?_, stores⟩
    rcases List.mem_cons.mp member with same | later
    · exact same ▸ first.seats
    · exact others other later

variable {running : Running}

/-- A regime is kept when an invocation takes a line, or none. -/
theorem kept_deliverIfAny (seated : ∀ slot ∈ running.slots, regime.Seats slot)
    (stored : regime.stores table) (id : InvocationId) (limits : Limits)
    (given : Option LogicalLine) :
    (∀ slot ∈ (running.deliverIfAny id limits table given).1.slots, regime.Seats slot) ∧
      regime.stores (running.deliverIfAny id limits table given).2.1 := by
  -- Without a line nothing changes.
  cases given with
  | none => exact ⟨seated, stored⟩
  | some line =>
    exact kept_each (fun slot table seats stores => kept_deliver seats stores _ line) seated stored

/-- Pushing a row keeps what is known of all slots and of the table. -/
theorem kept_push (seated : ∀ slot ∈ running.slots, regime.Seats slot)
    (stored : regime.stores table) (id : InvocationId) (limits : Limits) (row : String)
    (wraps : Bool) :
    (∀ slot ∈ (running.push id limits table row wraps).1.slots, regime.Seats slot) ∧
      regime.stores (running.push id limits table row wraps).2.1 := by
  -- The row itself changes neither the slots nor the table.
  let grown : Running := { running with
    buffer := (running.buffer.push row wraps).2
    rows := running.rows.push row }
  have same : ∀ slot ∈ grown.slots, regime.Seats slot := seated
  exact kept_deliverIfAny same stored id limits (running.buffer.push row wraps).1

/-- Completing an invocation keeps what is known of the table. -/
theorem kept_completeRunning (seated : ∀ slot ∈ running.slots, regime.Seats slot)
    (stored : regime.stores table) (id : InvocationId) (limits : Limits) (exitCode : Int)
    (totalRows : Nat) :
    regime.stores (running.complete id limits table exitCode totalRows).1 := by
  -- The last line is delivered first.
  let settled : Running := { running with buffer := running.buffer.flush.2 }
  have same : ∀ slot ∈ settled.slots, regime.Seats slot := seated
  obtain ⟨flushed, stores⟩ := kept_deliverIfAny same stored id limits running.buffer.flush.1
  -- The slots are completed behind the flushed line.
  refine (kept_each (fun slot table seats stores => ?_) flushed stores).2
  exact kept_complete seats stores _ _ _ totalRows

/-- Seating known matchers gives slots that keep to the regime. -/
theorem seats_attachAll {attachments : List Attachment}
    (known : ∀ attachment ∈ attachments, regime.holds attachment.name attachment.matcher)
    (deferBuffered : Bool) (id : InvocationId) (invocation : Invocation) :
    ∀ slot ∈ (Tracker.attachAll deferBuffered id invocation attachments).1,
      regime.Seats slot := by
  -- A slot is seated as it is, or after its matcher was started.
  intro slot member
  obtain ⟨attachment, present, seated⟩ := Tracker.mem_attachAll member
  rcases Tracker.seat_eq_some seated with rfl | ⟨-, rfl⟩
  · exact known attachment present
  · exact regime.start invocation (known attachment present)

/-- The matchers that a factory builds are known to a regime. -/
def Admits (regime : Regime) (factory : Factory) : Prop :=
  -- They are seated under the name of the factory.
  ∀ site notes matcher, factory.create site = (notes, .ok matcher) →
    regime.holds factory.name matcher

/-- What attaches from admitted factories is known. -/
theorem holds_resolve {registry : Registry}
    (admitted : ∀ factory ∈ registry.factories, regime.Admits factory) (id : InvocationId)
    (invocation : Invocation) : ∀ attachment ∈ (registry.resolve id invocation).1,
      regime.holds attachment.name attachment.matcher := by
  -- Every attachment was built by a factory that is admitted.
  intro attachment member
  obtain ⟨factory, present, notes, built, named⟩ := Registry.resolve_built member
  rw [named]
  exact admitted factory present _ notes _ built

/-- A regime governs a tracker when it knows all that is seated and stored. -/
structure Governs (regime : Regime) (tracker : Tracker) : Prop where
  /-- All seated matchers are known. -/
  seats : ∀ id running, tracker.running? id = some running →
    ∀ slot ∈ running.slots, regime.Seats slot
  /-- The table is known. -/
  stores : regime.stores tracker.table

variable {tracker : Tracker}

/-- A tracker that has begun nothing is governed by every regime. -/
theorem governs_ofRegistry (regime : Regime) (registry : Registry) (deferBuffered : Bool)
    (limits : Limits) : regime.Governs (.ofRegistry registry deferBuffered limits) where
  -- Nothing runs at the start, and a fresh table is stored under any regime.
  seats id running present := by simp [Tracker.ofRegistry, Tracker.running?] at present
  stores := regime.fresh

/-- Operations keep a tracker governed when all factories are admitted. -/
theorem Governs.perform (governs : regime.Governs tracker) (bounded : tracker.Bounded)
    (admitted : ∀ factory ∈ tracker.registry.factories, regime.Admits factory)
    (operation : Operation) : regime.Governs (tracker.perform operation).2.1 := by
  -- One case for each operation.
  have all : tracker.AllRunning fun running => ∀ slot ∈ running.slots, regime.Seats slot :=
    governs.seats
  cases operation with
  | begin invocation =>
    -- New matchers come in here alone.
    refine ⟨all.begin bounded ?_, ?_⟩
    · dsimp only
      exact seats_attachAll (holds_resolve admitted tracker.upcoming invocation)
        tracker.deferBuffered tracker.upcoming invocation
    · rw [Tracker.perform_begin]
      exact governs.stores
  | pushRow id row wraps =>
    cases present : tracker.running? id with
    | none => rw [Tracker.perform_gone rfl present]; exact governs
    | some running =>
      rw [Tracker.perform_pushRow present]
      obtain ⟨seated, stored⟩ :=
        kept_push (governs.seats id running present) governs.stores id tracker.limits row wraps
      exact ⟨all.update present seated _, stored⟩
  | finish id exitCode totalRows =>
    cases present : tracker.running? id with
    | none => rw [Tracker.perform_gone rfl present]; exact governs
    | some running =>
      rw [Tracker.perform_finish present]
      have stored := kept_completeRunning (governs.seats id running present) governs.stores id
        tracker.limits exitCode totalRows
      exact ⟨all.release id, stored⟩
  | abandon id =>
    cases present : tracker.running? id with
    | none => rw [Tracker.perform_gone rfl present]; exact governs
    | some running =>
      rw [Tracker.perform_abandon present]
      exact ⟨all.release id, governs.stores⟩
  | evict id => exact ⟨governs.seats, regime.remove _ governs.stores⟩
  | evictInvocation id => exact ⟨governs.seats, regime.remove _ governs.stores⟩

/-- Over any course a tracker with admitted factories stays governed. -/
theorem Governs.course (governs : regime.Governs tracker) (bounded : tracker.Bounded)
    (admitted : ∀ factory ∈ tracker.registry.factories, regime.Admits factory)
    (operations : List Operation) : regime.Governs (tracker.course operations).tracker := by
  -- Induction on the operations from their end, each of which keeps the regime.
  induction operations using List.reverseRecOn with
  | nil => exact governs
  | append_singleton operations operation ih =>
    obtain ⟨stays, settled⟩ := Tracker.course_settled bounded operations
    rw [← settled.registry] at admitted
    rw [Tracker.course_concat, Course.follow_tracker]
    exact ih.perform stays admitted operation

end Regime

end Annotator

import Annotator.Proofs.Hook.Scheduled
import Annotator.Proofs.Tracker.Coupling

/-!
However a built-in matcher is scheduled, it makes of an invocation what it makes by itself when it
is started at completion and takes all lines at once.
-/

namespace Annotator

namespace Slot

variable {stage : Stage} {slot : Slot} {table : RegionTable} {invocation : Invocation}

/-- Lines delivered in two groups are delivered as all of them are. -/
theorem deliverLines_append (early late : List LogicalLine) :
    slot.deliverLines stage table (early ++ late) =
      let first := slot.deliverLines stage table early
      let second := first.1.deliverLines stage first.2.1 late
      (second.1, second.2.1, first.2.2 ++ second.2.2) := by
  -- Induction on the early lines.
  induction early generalizing slot table with
  | nil => rfl
  | cons line rest ih => simp [deliverLines, ih]

/-- A waiting slot catches up on two groups of lines as on all of them. -/
theorem catchUp_append (waiting : slot.status = .waiting) (early late : List LogicalLine) :
    slot.catchUp stage invocation table (early ++ late) =
      let first := slot.catchUp stage invocation table early
      let second := first.1.deliverLines stage first.2.1 late
      (second.1, second.2.1, first.2.2 ++ second.2.2) := by
  -- The start comes before all lines.
  simp only [catchUp_of_waiting waiting, deliverLines_append, List.append_assoc]

/-- A slot whose matcher does not want the invocation is not finished. -/
theorem wantsFinish_of_unwanted {answer : Except Fault Bool}
    (status : slot.status = .afterStart answer)
    (unwanted : SlotStatus.afterStart answer ≠ .active) : slot.wantsFinish = false := by
  -- Whoever did not want lines is not called at the end.
  unfold wantsFinish
  rw [status]
  cases answer with
  | error fault => rfl
  | ok wanted =>
    cases wanted with
    | false => rfl
    | true => exact absurd rfl unwanted

end Slot

namespace Attachment

/-- A matcher that is started by itself and takes lines, of an invocation with the given rows. -/
def caughtUp (attachment : Attachment) (limits : Limits) (rows : Array String)
    (invocation : Invocation) (lines : List LogicalLine) : Slot × RegionTable × Journal :=
  -- No other region is present.
  (Slot.ofAttachment attachment .waiting).catchUp { id := .first, limits, rows } invocation {} lines

/-- A matcher that is completed by itself, of an invocation with the given rows. -/
def replayed (attachment : Attachment) (limits : Limits) (rows : Array String)
    (invocation : Invocation) (lines : List LogicalLine) (totalRows : Nat) :
    Slot × RegionTable × Journal :=
  -- It is started, takes the lines and is finished.
  (Slot.ofAttachment attachment .waiting).complete { id := .first, limits, rows } invocation lines
    totalRows {}

variable (attachment : Attachment) (limits : Limits) (rows : Array String)
  (invocation : Invocation)

/-- Without lines a matcher is only started. -/
theorem caughtUp_nil :
    attachment.caughtUp limits rows invocation [] =
      let handled := attachment.matcher.start invocation
      (Slot.ofAttachment { attachment with matcher := handled.matcher }
          (.afterStart handled.answer), {},
        hookJournal attachment.name .first "on_start" (.start invocation)
          (.ofWish handled.answer) handled.notes ++ []) :=
  -- Without lines only the start is left.
  rfl

/-- One more line is delivered to what took the lines before. -/
theorem caughtUp_concat (lines : List LogicalLine) (line : LogicalLine) :
    attachment.caughtUp limits rows invocation (lines ++ [line]) =
      let first := attachment.caughtUp limits rows invocation lines
      let second := first.1.deliver { id := .first, limits, rows } first.2.1 line
      (second.1, second.2.1, first.2.2 ++ (second.2.2 ++ [])) :=
  -- The last line is taken behind the others.
  Slot.catchUp_append rfl lines [line]

/-- Catching up keeps the name of a matcher. -/
theorem caughtUp_name (lines : List LogicalLine) :
    (attachment.caughtUp limits rows invocation lines).1.name = attachment.name :=
  -- Catching up does not rename a slot.
  (Slot.catchUp_keeps _ invocation _ _ lines).1

/-- A matcher that is completed by itself is finished after it caught up. -/
theorem replayed_eq (lines : List LogicalLine) (totalRows : Nat) :
    attachment.replayed limits rows invocation lines totalRows =
      let caught := attachment.caughtUp limits rows invocation lines
      let finished := caught.1.finish { id := .first, limits, rows } caught.2.1 totalRows
      (finished.1, finished.2.1, caught.2.2 ++ finished.2.2) :=
  -- A replay is a completion, cut in its two parts.
  rfl

/-- A matcher that does not want the invocation makes nothing of it. -/
theorem replayed_of_unwanted
    (unwanted : SlotStatus.afterStart (attachment.matcher.start invocation).answer ≠ .active)
    (lines : List LogicalLine) (totalRows : Nat) :
    (attachment.replayed limits rows invocation lines totalRows).2.1 = {} := by
  -- The slot is not active behind its start, so it takes neither lines nor the last call.
  let started : Slot := Slot.ofAttachment
    { attachment with matcher := (attachment.matcher.start invocation).matcher }
    (.afterStart (attachment.matcher.start invocation).answer)
  have passive : started.status ≠ .active := unwanted
  have passed : (attachment.caughtUp limits rows invocation lines).1 = started ∧
      (attachment.caughtUp limits rows invocation lines).2.1 = {} := by
    rw [caughtUp, Slot.catchUp_of_waiting rfl]
    exact ⟨congrArg (·.1) (Slot.deliverLines_of_not_active passive lines),
      congrArg (·.2.1) (Slot.deliverLines_of_not_active passive lines)⟩
  have left : started.wantsFinish = false := Slot.wantsFinish_of_unwanted rfl unwanted
  rw [replayed_eq]
  dsimp only
  rw [passed.1, passed.2, Slot.finish_of_not_wanting left]

end Attachment

namespace Coupling

/-- A region belongs to a matcher when it bears its name. -/
def madeBy (name : String) (region : Region) : Bool :=
  -- Names are distinct among the matchers of an invocation.
  region.matcher == name

/-- A matcher owns the regions under its name. -/
theorem owns_madeBy (name : String) : (scheduled name).Owns (madeBy name) name :=
  -- What belongs to a matcher is told by its name.
  fun _ _ named => beq_iff_eq.mpr named

/--
How far a matcher has come with some lines, compared with what it makes of them by itself: it waits
for completion, or it did the same, or it does not want the invocation on either side.
-/
inductive Standing (attachment : Attachment) (limits : Limits) (rows : Array String)
    (invocation : Invocation) (lines : List LogicalLine) (pairing : Pairing) :
    Option Slot → RegionTable → Prop
  /-- It waits for completion. -/
  | waiting {slot : Slot} {table : RegionTable}
    (slots : (scheduled attachment.name).Slots pairing slot (Slot.ofAttachment attachment .waiting))
    (tables : (scheduled attachment.name).Tables pairing limits (madeBy attachment.name) table {}) :
    Standing attachment limits rows invocation lines pairing (some slot) table
  /-- It was started and took the lines as they arrived. -/
  | started {slot : Slot} {table : RegionTable} (ready : slot.status ≠ .waiting)
    (slots : (scheduled attachment.name).Slots pairing slot
      (attachment.caughtUp limits rows invocation lines).1)
    (tables : (scheduled attachment.name).Tables pairing limits (madeBy attachment.name) table
      (attachment.caughtUp limits rows invocation lines).2.1) :
    Standing attachment limits rows invocation lines pairing (some slot) table
  /-- It does not want the invocation and was given no slot. -/
  | unseated {table : RegionTable}
    (unwanted : SlotStatus.afterStart (attachment.matcher.start invocation).answer ≠ .active)
    (tables : (scheduled attachment.name).Tables pairing limits (madeBy attachment.name) table {}) :
    Standing attachment limits rows invocation lines pairing none table

variable {attachment : Attachment} {limits : Limits} {rows : Array String}
  {invocation : Invocation} {lines : List LogicalLine} {pairing : Pairing} {own : Option Slot}
  {table : RegionTable}

/-- A table stays coupled when regions of other matchers are added. -/
theorem Tables.others {name : String} {other : RegionTable}
    (tables : (scheduled name).Tables pairing limits (madeBy name) table other)
    {grown : RegionTable} (grows : table.Grows (fun region => region.matcher ≠ name) grown) :
    (scheduled name).Tables pairing limits (madeBy name) grown other :=
  -- Regions of others are not compared.
  tables.grows (grows.mono fun _ foreign => beq_eq_false_iff_ne.mpr foreign)

/-- A matcher stands as before when regions of other matchers are added. -/
theorem Standing.grows
    (standing : Standing attachment limits rows invocation lines pairing own table)
    {grown : RegionTable}
    (grows : table.Grows (fun region => region.matcher ≠ attachment.name) grown) :
    Standing attachment limits rows invocation lines pairing own grown := by
  -- Regions of others do not matter to any way of standing.
  cases standing with
  | waiting slots tables => exact .waiting slots (tables.others grows)
  | started ready slots tables => exact .started ready slots (tables.others grows)
  | unseated unwanted tables => exact .unseated unwanted (tables.others grows)

/-- A matcher is seated as it is by itself before it takes any line. -/
theorem Standing.seat {begun : Invocation}
    (same : (scheduled attachment.name).Matchers {} attachment.matcher attachment.matcher)
    (starts : (scheduled attachment.name).starts begun invocation)
    (tables : (scheduled attachment.name).Tables {} limits (madeBy attachment.name) table {})
    (rows : Array String) (deferBuffered : Bool) (id : InvocationId) :
    Standing attachment limits rows invocation [] {}
      (Tracker.seat deferBuffered id begun attachment).1 table := by
  -- A matcher that waits has had nothing yet, and one that does not has been started.
  have slots : (scheduled attachment.name).Slots {} (Slot.ofAttachment attachment .waiting)
      (Slot.ofAttachment attachment .waiting) := ⟨rfl, rfl, rfl, same⟩
  have started := slots.start starts
  unfold Tracker.seat
  split
  · exact .waiting slots tables
  · unfold Tracker.attach
    dsimp only
    -- The exit code may be known by now, which does not change the decision.
    have decided : SlotStatus.afterStart (attachment.matcher.start begun).answer =
        SlotStatus.afterStart (attachment.matcher.start invocation).answer := started.status
    split
    · rename_i wanted
      rw [wanted] at decided
      refine .started (by rintro ⟨⟩) ?_ ?_
      · rw [Attachment.caughtUp_nil]
        exact ⟨rfl, rfl, decided, started.matcher⟩
      · rw [Attachment.caughtUp_nil]
        exact tables
    · rename_i unwanted
      refine .unseated (fun active => unwanted ?_) tables
      have answer := decided.trans active
      unfold SlotStatus.afterStart at answer
      split at answer
      · assumption
      · cases answer
      · cases answer

/-- A matcher stands as by itself after one more line, whatever rows have been received by then. -/
theorem Standing.deliver
    (standing : Standing attachment limits rows invocation lines pairing own table)
    (received : Array String) (line : LogicalLine) :
    let stage : Stage := { id := .first, limits, rows := received }
    ∃ later, pairing.Within later ∧
      Standing attachment limits rows invocation (lines ++ [line]) later
        (own.map fun slot => (slot.deliver stage table line).1)
        (own.elim table fun slot => (slot.deliver stage table line).2.1) := by
  -- A slot that waits leaves the line for later, and one that was started takes it as the replay
  -- does.
  intro stage
  cases standing with
  | @waiting slot _ slots tables =>
    have passive : slot.status ≠ .active := by
      rw [slots.status]
      exact nofun
    refine ⟨pairing, .refl pairing, ?_⟩
    simp only [Option.map_some, Option.elim_some, Slot.deliver_of_not_active passive]
    exact .waiting slots tables
  | @started slot _ ready slots tables =>
    have stages : (scheduled attachment.name).Stages (scheduled attachment.name).inStep stage
        { id := .first, limits, rows } := ⟨rfl, rfl, rfl, False.elim⟩
    have owns : (scheduled attachment.name).Owns (madeBy attachment.name) slot.name := by
      rw [slots.name, Attachment.caughtUp_name]
      exact owns_madeBy attachment.name
    obtain ⟨later, within, step⟩ := slots.deliver stages owns tables line
    refine ⟨later, within, .started ?_ ?_ ?_⟩
    · rwa [Ne, Slot.deliver_waiting]
    · rw [Attachment.caughtUp_concat]
      exact step.slot
    · rw [Attachment.caughtUp_concat]
      exact step.table
  | unseated unwanted tables => exact ⟨pairing, .refl pairing, .unseated unwanted tables⟩

/-- Completing a matcher leaves the regions that it makes by itself. -/
theorem Standing.complete
    (standing : Standing attachment limits rows invocation lines pairing own table)
    {retained : List LogicalLine}
    (kept : ∀ slot ∈ own, slot.status = .waiting → retained = lines) (totalRows : Nat) :
    let stage : Stage := { id := .first, limits, rows }
    ∃ later, (scheduled attachment.name).Tables later limits (madeBy attachment.name)
      (own.elim table fun slot => (slot.complete stage invocation retained totalRows table).2.1)
      (attachment.replayed limits rows invocation lines totalRows).2.1 := by
  -- A slot that waits replays what was kept, and one that was started has only to finish.
  intro stage
  have stages : (scheduled attachment.name).Stages True stage stage :=
    ⟨rfl, rfl, rfl, fun _ => rfl⟩
  cases standing with
  | @waiting slot _ slots tables =>
    obtain rfl := kept slot rfl slots.status
    have owns : (scheduled attachment.name).Owns (madeBy attachment.name) slot.name := by
      rw [slots.name]
      exact owns_madeBy attachment.name
    have starts : (scheduled attachment.name).starts invocation invocation := fun _ => rfl
    obtain ⟨later, _, step⟩ := slots.complete stages owns tables starts retained totalRows
    exact ⟨later, step.table⟩
  | @started slot _ ready slots tables =>
    have owns : (scheduled attachment.name).Owns (madeBy attachment.name) slot.name := by
      rw [slots.name, Attachment.caughtUp_name]
      exact owns_madeBy attachment.name
    obtain ⟨later, _, step⟩ := slots.finish stages owns tables totalRows
    refine ⟨later, ?_⟩
    simp only [Option.elim_some, Slot.complete_eq, Slot.catchUp_of_not_waiting ready,
      Attachment.replayed_eq]
    exact step.table
  | unseated unwanted tables =>
    refine ⟨pairing, ?_⟩
    rw [attachment.replayed_of_unwanted limits rows invocation unwanted]
    exact tables

/-- The slot of a matcher among others stands as the matcher does by itself. -/
def Seats (attachment : Attachment) (limits : Limits) (rows : Array String)
    (invocation : Invocation) (lines : List LogicalLine) (slots : List Slot)
    (table : RegionTable) : Prop :=
  -- Whether there is a slot depends on the scheduling.
  ∃ pairing own, Slot.Singles slots attachment.name own ∧
    Standing attachment limits rows invocation lines pairing own table

/-- A slot among others stands as by itself after a line that may not have been completed. -/
theorem Seats.deliverIfAny {running : Running}
    (seats : Seats attachment limits rows invocation lines running.slots table)
    (given : Option LogicalLine) :
    Seats attachment limits rows invocation (lines ++ given.toList)
      (running.deliverIfAny .first limits table given).1.slots
      (running.deliverIfAny .first limits table given).2.1 := by
  -- Without a line nothing happens.
  cases given with
  | none =>
    rw [Option.toList_none, List.append_nil]
    exact seats
  | some line =>
    obtain ⟨pairing, own, singles, standing⟩ := seats
    let stage : Stage := { id := .first, limits, rows := running.rows }
    obtain ⟨between, kept, _, before, behind⟩ :=
      singles.each (fun slot _ table => Slot.deliver_own stage slot table line) table
    -- What the slots in front and behind add is of no concern.
    obtain ⟨later, _, reached⟩ := (standing.grows before).deliver running.rows line
    exact ⟨later, _, kept, reached.grows behind⟩

/-- Completing an invocation leaves the regions that the matcher makes by itself. -/
theorem Seats.complete {running : Running} {life : Life} {names : List String} {exitCode : Int}
    (seats : Seats attachment limits life.received
      { life.invocation with exitCode := some exitCode } life.assembled.1 running.slots table)
    (mirrors : life.Mirrors names running) (totalRows : Nat) :
    ∃ pairing, (scheduled attachment.name).Tables pairing limits (madeBy attachment.name)
      (running.complete .first limits table exitCode totalRows).1
      (attachment.replayed limits life.received { life.invocation with exitCode := some exitCode }
        (life.assembled.1 ++ life.assembled.2.flush.1.toList) totalRows).2.1 := by
  -- The last line is delivered first, and then the slots that wait catch up.
  let settled : Running := { running with buffer := running.buffer.flush.2 }
  let given := running.buffer.flush.1
  let flushed := settled.deliverIfAny .first limits table given
  have frame : settled.Frames (fun _ => True) .first table flushed :=
    Running.deliverIfAny_frames fun _ _ _ _ _ _ => trivial
  have begun : Seats attachment limits life.received
      { life.invocation with exitCode := some exitCode } life.assembled.1 settled.slots table :=
    seats
  obtain ⟨pairing, own, singles, standing⟩ := begun.deliverIfAny given
  let stage : Stage := { id := .first, limits, rows := flushed.1.rows }
  let invocation := { flushed.1.invocation with exitCode := some exitCode }
  obtain ⟨between, _, _, before, behind⟩ := singles.each
    (fun slot _ table => Slot.complete_own stage invocation slot table flushed.1.lines.toList
      totalRows) flushed.2.1
  -- A slot that waits has had all lines retained for it.
  have retained : ∀ slot ∈ own, slot.status = .waiting →
      flushed.1.lines.toList = life.assembled.1 ++ given.toList := by
    intro slot held waits
    obtain rfl : own = some slot := held
    have waiting := Running.hasWaiting_of_singles singles waits
    obtain ⟨waited, lines⟩ := settled.deliverIfAny_retains .first limits table given
    have waitedBefore : settled.hasWaiting = true := waited.symm.trans waiting
    rw [lines waitedBefore]
    exact congrArg (· ++ given.toList) (mirrors.complete waitedBefore)
  have rows : flushed.1.rows = life.received := frame.rows.trans mirrors.rows
  have same : flushed.1.invocation = life.invocation := frame.invocation.trans mirrors.invocation
  obtain ⟨later, tables⟩ := (standing.grows before).complete retained totalRows
  refine ⟨later, ?_⟩
  rw [← mirrors.buffer]
  have passed : (running.complete .first limits table exitCode totalRows).1 =
      (Slot.each (Slot.complete stage invocation flushed.1.lines.toList totalRows)
        flushed.1.slots flushed.2.1).2.1 := rfl
  rw [passed]
  refine tables.others ?_
  simpa only [stage, invocation, rows, same] using behind

end Coupling

end Annotator

import Annotator.Proofs.Hook.RewrappedBuiltins
import Annotator.Proofs.Tracker.Eviction
import Annotator.Proofs.Tracker.Received

/-! The terminal decides how lines are cut into rows, and not which regions mark them. -/

namespace Annotator

namespace Rewrapping

/-- Two slots are the same but for the rows that the lines were cut into. -/
structure Slots (wrapping : Rewrapping) (slot other : Slot) : Prop where
  /-- The names are the same. -/
  name : slot.name = other.name
  /-- The policies are the same. -/
  finishPolicy : slot.finishPolicy = other.finishPolicy
  /-- The slots have come equally far. -/
  status : slot.status = other.status
  /-- The matchers are the same. -/
  matcher : wrapping.Matchers slot.name slot.matcher other.matcher

/-- Steps on two slots leave what is the same. -/
structure Steps (wrapping : Rewrapping) (limits : Limits)
    (result other : Slot × RegionTable × Journal) : Prop where
  /-- The slots are the same. -/
  slot : wrapping.Slots result.1 other.1
  /-- The tables are the same. -/
  table : wrapping.Tables limits result.2.1 other.2.1

variable {wrapping : Rewrapping} {limits : Limits} {slot other : Slot}
  {table otherTable : RegionTable} (id : InvocationId) {rows otherRows : Array String}

/-- Delivering the same logical line to slots that are the same leaves what is the same. -/
theorem Slots.deliver (same : wrapping.Slots slot other)
    (tables : wrapping.Tables limits table otherTable) {line otherLine : LogicalLine}
    (pairs : wrapping.Pairs line otherLine) (rows otherRows : Array String) :
    wrapping.Steps limits (slot.deliver { id, limits, rows } table line)
      (other.deliver { id, limits, rows := otherRows } otherTable otherLine) := by
  -- Both slots are active or neither is, and hooks on lines do not refer to the end.
  by_cases active : slot.status = .active
  · rw [Slot.deliver_of_active active, Slot.deliver_of_active (same.status ▸ active), ← same.name]
    have scenes : wrapping.Scenes False
        (Stage.scene { id, limits, rows } slot.name (some line))
        (Stage.scene { id, limits, rows := otherRows } slot.name (some otherLine)) :=
      ⟨rfl, rfl, rfl, .some pairs, False.elim⟩
    have handled := same.matcher.takeLine scenes tables pairs
    exact ⟨⟨rfl, same.finishPolicy, congrArg SlotStatus.afterLine handled.answer,
      handled.matcher⟩, handled.table⟩
  · rw [Slot.deliver_of_not_active active, Slot.deliver_of_not_active (same.status ▸ active)]
    exact ⟨same, tables⟩

/-- Delivering the same logical lines to slots that are the same leaves what is the same. -/
theorem Slots.deliverLines (same : wrapping.Slots slot other)
    (tables : wrapping.Tables limits table otherTable) {lines otherLines : List LogicalLine}
    (pairs : lines.Forall₂ wrapping.Pairs otherLines) (rows otherRows : Array String) :
    wrapping.Steps limits (slot.deliverLines { id, limits, rows } table lines)
      (other.deliverLines { id, limits, rows := otherRows } otherTable otherLines) := by
  -- Induction on the lines, which are paired one by one.
  induction pairs generalizing slot other table otherTable with
  | nil => exact ⟨same, tables⟩
  | cons first _ ih =>
    have taken := same.deliver id tables first rows otherRows
    have later := ih taken.slot taken.table
    exact ⟨later.slot, later.table⟩

/-- Catching up on the same logical lines leaves what is the same. -/
theorem Slots.catchUp (same : wrapping.Slots slot other)
    (tables : wrapping.Tables limits table otherTable) (invocation : Invocation)
    {lines otherLines : List LogicalLine} (pairs : lines.Forall₂ wrapping.Pairs otherLines)
    (rows otherRows : Array String) :
    wrapping.Steps limits (slot.catchUp { id, limits, rows } invocation table lines)
      (other.catchUp { id, limits, rows := otherRows } invocation otherTable otherLines) := by
  -- Either both slots wait or neither does.
  by_cases waiting : slot.status = .waiting
  · rw [Slot.catchUp_of_waiting waiting, Slot.catchUp_of_waiting (same.status ▸ waiting)]
    obtain ⟨matchers, answer⟩ := same.matcher.start invocation
    -- Starting touches no region, and what follows is an ordinary delivery.
    have started : wrapping.Slots
        { slot with
          matcher := (slot.matcher.start invocation).matcher
          status := .afterStart (slot.matcher.start invocation).answer }
        { other with
          matcher := (other.matcher.start invocation).matcher
          status := .afterStart (other.matcher.start invocation).answer } :=
      ⟨same.name, same.finishPolicy, congrArg SlotStatus.afterStart answer, matchers⟩
    have taken := started.deliverLines id tables pairs rows otherRows
    exact ⟨taken.slot, taken.table⟩
  · rw [Slot.catchUp_of_not_waiting waiting,
      Slot.catchUp_of_not_waiting (same.status ▸ waiting)]
    exact ⟨same, tables⟩

/-- Finishing slots that are the same over all rows leaves what is the same. -/
theorem Slots.finish (same : wrapping.Slots slot other)
    (tables : wrapping.Tables limits table otherTable) (all : rows.size = wrapping.rowCount)
    (otherAll : otherRows.size = wrapping.otherRowCount) :
    wrapping.Steps limits (slot.finish { id, limits, rows } table wrapping.rowCount)
      (other.finish { id, limits, rows := otherRows } otherTable wrapping.otherRowCount) := by
  -- Both slots want their last call or neither does, and all rows have been received.
  have wants := Slot.wantsFinish_congr same.status same.finishPolicy
  cases wanted : slot.wantsFinish with
  | false =>
    rw [Slot.finish_of_not_wanting wanted, Slot.finish_of_not_wanting (wants.symm.trans wanted)]
    exact ⟨same, tables⟩
  | true =>
    rw [Slot.finish_of_wanting wanted, Slot.finish_of_wanting (wants.symm.trans wanted),
      ← same.name]
    have scenes : wrapping.Scenes (slot.name = Make.matcherName)
        (Stage.scene { id, limits, rows } slot.name none)
        (Stage.scene { id, limits, rows := otherRows } slot.name none) :=
      ⟨rfl, rfl, rfl, .none, fun named => ⟨named, all, otherAll⟩⟩
    have handled := same.matcher.finish scenes tables all otherAll
    exact ⟨⟨rfl, same.finishPolicy, congrArg₂ SlotStatus.afterFinish same.status handled.answer,
      handled.matcher⟩, handled.table⟩

/-- Completing slots that are the same over all rows leaves what is the same. -/
theorem Slots.complete (same : wrapping.Slots slot other)
    (tables : wrapping.Tables limits table otherTable) (all : rows.size = wrapping.rowCount)
    (otherAll : otherRows.size = wrapping.otherRowCount) (invocation : Invocation)
    {lines otherLines : List LogicalLine} (pairs : lines.Forall₂ wrapping.Pairs otherLines) :
    wrapping.Steps limits
      (slot.complete { id, limits, rows } invocation lines wrapping.rowCount table)
      (other.complete { id, limits, rows := otherRows } invocation otherLines
        wrapping.otherRowCount otherTable) := by
  -- The slots catch up with the lines before they finish.
  have caught := same.catchUp id tables invocation pairs rows otherRows
  have finished := caught.slot.finish id caught.table all otherAll
  exact ⟨finished.slot, finished.table⟩

/-- Passing over slots that are the same leaves what is the same if each step does. -/
theorem each_same {step otherStep : Slot → RegionTable → Slot × RegionTable × Journal}
    {slots others : List Slot} (same : slots.Forall₂ wrapping.Slots others)
    (tables : wrapping.Tables limits table otherTable)
    (steps : ∀ {slot other : Slot} {table otherTable : RegionTable}, wrapping.Slots slot other →
      wrapping.Tables limits table otherTable →
        wrapping.Steps limits (step slot table) (otherStep other otherTable)) :
    (Slot.each step slots table).1.Forall₂ wrapping.Slots
        (Slot.each otherStep others otherTable).1 ∧
      wrapping.Tables limits (Slot.each step slots table).2.1
        (Slot.each otherStep others otherTable).2.1 := by
  -- Induction on the slots, which hand their tables on.
  induction same generalizing table otherTable with
  | nil => exact ⟨.nil, tables⟩
  | cons first _ ih =>
    have taken := steps first tables
    obtain ⟨later, reached⟩ := ih taken.table
    exact ⟨.cons taken.slot later, reached⟩

/-- Between lines, two running invocations are the same but for the rows received. -/
structure Runnings (wrapping : Rewrapping) (running other : Running) : Prop where
  /-- The invocations are the same. -/
  invocation : running.invocation = other.invocation
  /-- The slots are the same, one by one. -/
  slots : running.slots.Forall₂ wrapping.Slots other.slots
  /-- The retained lines are the same logical lines, one by one. -/
  lines : running.lines.toList.Forall₂ wrapping.Pairs other.lines.toList
  /-- No line is unfinished. -/
  between : running.BetweenLines
  /-- No line is unfinished on the other side. -/
  otherBetween : other.BetweenLines

variable {running otherRunning : Running}

/-- Recording the rows of a line leaves no line unfinished. -/
theorem Runnings.record (same : wrapping.Runnings running otherRunning) (cut otherCut : Cut) :
    wrapping.Runnings (running.record cut) (otherRunning.record otherCut) :=
  -- Behind a recorded line nothing is pending on either side.
  ⟨same.invocation, same.slots, same.lines, running.record_between cut,
    otherRunning.record_between otherCut⟩

/-- Delivering the same logical line leaves what is the same. -/
theorem Runnings.deliver (same : wrapping.Runnings running otherRunning)
    (tables : wrapping.Tables limits table otherTable) {line otherLine : LogicalLine}
    (pairs : wrapping.Pairs line otherLine) :
    wrapping.Runnings (running.deliver id limits table line).1
        (otherRunning.deliver id limits otherTable otherLine).1 ∧
      wrapping.Tables limits (running.deliver id limits table line).2.1
        (otherRunning.deliver id limits otherTable otherLine).2.1 := by
  -- The slots take the line alike, so that the same ones wait behind it.
  rw [Running.deliver_eq, Running.deliver_eq]
  obtain ⟨slots, reached⟩ := each_same same.slots tables fun equal tables =>
    equal.deliver id tables pairs running.rows otherRunning.rows
  refine ⟨⟨same.invocation, slots, ?_, same.between, same.otherBetween⟩, reached⟩
  -- Both sides retain the line or neither does.
  have waiting := Slot.any_waiting_congr (fun _ _ equal => equal.status) slots
  dsimp only
  rw [← waiting]
  split
  · rw [Array.toList_push, Array.toList_push]
    exact List.rel_append same.lines (.cons pairs .nil)
  · exact same.lines

/-- Receiving the same logical lines leaves what is the same, in whichever way they are cut. -/
theorem Runnings.receive (same : wrapping.Runnings running otherRunning)
    (tables : wrapping.Tables limits table otherTable) {cuts others : List Cut}
    (pairs : (Cut.lines running.rows.size cuts).Forall₂ wrapping.Pairs
      (Cut.lines otherRunning.rows.size others)) :
    let reached := running.receive id limits table (Cut.rows false cuts)
    let otherReached := otherRunning.receive id limits otherTable (Cut.rows false others)
    wrapping.Runnings reached.1 otherReached.1 ∧
      wrapping.Tables limits reached.2 otherReached.2 := by
  -- The induction goes from one line break to the next, where the rows can be compared again.
  induction cuts generalizing others running otherRunning table otherTable with
  | nil =>
    cases others with
    | nil => exact ⟨same, tables⟩
    | cons otherCut others => cases pairs
  | cons cut cuts ih =>
    cases others with
    | nil => cases pairs
    | cons otherCut others =>
      rw [Cut.lines, Cut.lines, List.forall₂_cons] at pairs
      obtain ⟨first, later⟩ := pairs
      rw [Cut.rows_cons, Cut.rows_cons, Running.receive_append, Running.receive_append,
        Running.receive_cut same.between, Running.receive_cut same.otherBetween]
      obtain ⟨reached, stored⟩ := (same.record cut otherCut).deliver id tables first
      refine ih reached stored ?_
      rw [← running.record_rows_size cut, ← otherRunning.record_rows_size otherCut] at later
      exact later

/-- Completing over all rows leaves tables that are the same. -/
theorem Runnings.complete (same : wrapping.Runnings running otherRunning)
    (tables : wrapping.Tables limits table otherTable)
    (all : running.rows.size = wrapping.rowCount)
    (otherAll : otherRunning.rows.size = wrapping.otherRowCount) (exitCode : Int) :
    wrapping.Tables limits
      (running.complete id limits table exitCode wrapping.rowCount).1
      (otherRunning.complete id limits otherTable exitCode wrapping.otherRowCount).1 := by
  -- Nothing is pending, so the slots complete right away.
  have flushed : running.buffer.flush.1 = none := congrArg LineBuffer.pending same.between
  have otherFlushed : otherRunning.buffer.flush.1 = none :=
    congrArg LineBuffer.pending same.otherBetween
  rw [Running.complete_eq, Running.complete_eq, flushed, otherFlushed]
  simp only [Running.deliverIfAny]
  rw [← same.invocation]
  exact (each_same same.slots tables fun equal tables =>
    equal.complete id tables all otherAll _ same.lines).2

/-- An invocation that has just been begun is the same as itself if its slots are. -/
theorem runnings_begun {slots : List Slot} (same : slots.Forall₂ wrapping.Slots slots)
    (invocation : Invocation) :
    wrapping.Runnings { invocation, slots } { invocation, slots } :=
  -- Nothing has been received on either side.
  ⟨rfl, same, .nil, rfl, rfl⟩

/-- Slots of matchers that are the same as themselves are the same as themselves. -/
theorem slots_attached {attachments : List Attachment}
    (same : ∀ attachment ∈ attachments,
      wrapping.Matchers attachment.name attachment.matcher attachment.matcher)
    (deferBuffered : Bool) (invocation : Invocation) :
    ∀ slot ∈ (Tracker.attachAll deferBuffered id invocation attachments).1,
      wrapping.Slots slot slot := by
  -- A slot is seated as it is, or after both have started alike.
  intro slot member
  obtain ⟨attachment, present, seated⟩ := Tracker.mem_attachAll member
  have own := same attachment present
  rcases Tracker.seat_eq_some seated with rfl | ⟨-, rfl⟩
  · exact ⟨rfl, rfl, rfl, own⟩
  · exact ⟨rfl, rfl, rfl, (own.start invocation).1⟩

/-- The slots that built-in matchers take are the same in whichever way lines are cut. -/
theorem slots_builtin (wrapping : Rewrapping) (settings : Settings) (invocation : Invocation) :
    (settings.tracker.firstSlots invocation).Forall₂ wrapping.Slots
      (settings.tracker.firstSlots invocation) := by
  -- All matchers are built-in ones.
  refine List.forall₂_same.mpr (slots_attached .first (fun attachment attached => ?_) _ _)
  obtain ⟨builtin, known, notes, built, named⟩ := Settings.attached_built attached
  rw [named]
  exact Builtin.factory_rewrapped known _ _ _ built

/-- An invocation leaves the same table over all of its rows, in whichever way they are cut. -/
theorem tables_builtin (wrapping : Rewrapping) (settings : Settings) (invocation : Invocation)
    (exitCode : Int) (wraps otherWraps : Bool) :
    wrapping.Tables settings.limits
      (settings.tracker.course (Operation.whole invocation (Cut.rows wraps wrapping.cuts) exitCode
        wrapping.rowCount)).tracker.table
      (settings.tracker.course (Operation.whole invocation (Cut.rows otherWraps wrapping.others)
        exitCode wrapping.otherRowCount)).tracker.table := by
  -- The invocation receives the lines of either cut and then completes.
  have bounded : settings.tracker.Bounded := Tracker.bounded_ofRegistry _ _ _
  let begun : Running := { invocation, slots := settings.tracker.firstSlots invocation }
  have same : wrapping.Runnings begun begun :=
    runnings_begun (wrapping.slots_builtin settings invocation) invocation
  have fresh : wrapping.Tables settings.tracker.limits settings.tracker.table
      settings.tracker.table := ⟨rfl, .nil⟩
  obtain ⟨reached, tables⟩ := same.receive .first fresh wrapping.forall₂_pairs
  have all := begun.receive_rows_size .first settings.tracker.limits settings.tracker.table
    (Cut.rows false wrapping.cuts)
  have otherAll := begun.receive_rows_size .first settings.tracker.limits settings.tracker.table
    (Cut.rows false wrapping.others)
  rw [Tracker.course_whole bounded rfl, Tracker.course_whole bounded rfl,
    Running.complete_receive wraps, Running.complete_receive otherWraps]
  exact reached.complete .first tables (all.trans (Nat.zero_add _))
    (otherAll.trans (Nat.zero_add _)) exitCode

variable {region otherRegion : Region}

/-- A region leads back from the last row in both ways or in neither. -/
theorem Regions.jumpsFrom_iff (same : wrapping.Regions limits region otherRegion) :
    region.JumpsFrom wrapping.rowCount limits ↔
      otherRegion.JumpsFrom wrapping.otherRowCount limits := by
  -- Corresponding regions lie both on a line or both behind the rows.
  cases same.spans with
  | atEnd jumps otherJumps => exact ⟨fun _ => otherJumps, fun _ => jumps⟩
  | onLine pairs sound start stop otherStart otherStop =>
    -- A region on a line ends within the rows, and the way back ends behind them.
    obtain ⟨inside, otherInside⟩ := pairs.position_row_lt _
    rw [← stop] at inside
    rw [← otherStop] at otherInside
    refine ⟨fun jumps => ?_, fun jumps => ?_⟩
    · rw [jumps.stop] at inside
      exact absurd inside (Nat.lt_irrefl _)
    · rw [jumps.stop] at otherInside
      exact absurd otherInside (Nat.lt_irrefl _)

/-- A region that leads back from the last row has a counterpart that does. -/
theorem exists_jumpsFrom_iff {regions others : List Region}
    (same : regions.Forall₂ (wrapping.Regions limits) others) :
    (∃ region ∈ regions, region.JumpsFrom wrapping.rowCount limits) ↔
      ∃ region ∈ others, region.JumpsFrom wrapping.otherRowCount limits := by
  -- Induction on the regions, which lead back from the last row on both sides or on neither.
  induction same with
  | nil => simp
  | cons first _ ih => simp only [List.mem_cons, exists_eq_or_imp, first.jumpsFrom_iff, ih]

end Rewrapping

/--
Soft wrapping is invisible: in whichever two ways the same logical lines are cut into rows, the
built-in matchers leave regions that correspond one to one in the order of their numbers, with the
same numbers, matchers and metadata, over the same bytes of the same lines. A build leads back from
the last row in both ways or in neither.
-/
theorem wrapping_keeps_regions (settings : Settings) (invocation : Invocation) (exitCode : Int)
    (wrapping : Rewrapping) (wraps otherWraps : Bool) :
    let rows := Cut.rows wraps wrapping.cuts
    let otherRows := Cut.rows otherWraps wrapping.others
    let regions := settings.regions invocation rows exitCode rows.length
    let otherRegions := settings.regions invocation otherRows exitCode otherRows.length
    -- Either way the rows are assembled to the lines that were cut.
    ({} : LineBuffer).lines rows = Cut.lines 0 wrapping.cuts ∧
    ({} : LineBuffer).lines otherRows = Cut.lines 0 wrapping.others ∧
    -- The regions correspond one to one in the order of their numbers.
    regions.Forall₂ (wrapping.Regions settings.limits) otherRegions ∧
    regions.Pairwise (·.id.number < ·.id.number) ∧
    otherRegions.Pairwise (·.id.number < ·.id.number) ∧
    -- The way back at the end is offered in both ways or in neither.
    ((∃ region ∈ regions, region.JumpsFrom rows.length settings.limits) ↔
      ∃ region ∈ otherRegions, region.JumpsFrom otherRows.length settings.limits) := by
  -- The tables of the two courses are the same up to the rows of the lines.
  intro rows otherRows regions otherRegions
  have count : rows.length = wrapping.rowCount := Cut.length_rows wraps wrapping.cuts
  have otherCount : otherRows.length = wrapping.otherRowCount :=
    Cut.length_rows otherWraps wrapping.others
  have same : regions.Forall₂ (wrapping.Regions settings.limits) otherRegions := by
    have tables := wrapping.tables_builtin settings invocation exitCode wraps otherWraps
    rw [← count, ← otherCount] at tables
    exact tables.regions
  refine ⟨Cut.lines_rows 0 wraps _, Cut.lines_rows 0 otherWraps _, same,
    Tracker.course_ordered _ _ _ _, Tracker.course_ordered _ _ _ _, ?_⟩
  rw [count, otherCount]
  exact Rewrapping.exists_jumpsFrom_iff same

/-- An error is marked and led back to, whether the terminal breaks its line and the last one. -/
theorem wrapping_keeps_regions_build :
    let wrapping : Rewrapping :=
      { cuts := [⟨"a.c:1: er", ["ror: bäd"]⟩, ⟨"", []⟩, ⟨"do", ["", "ne"]⟩]
        others := [⟨"a.c:1: error: bäd", []⟩, ⟨"", []⟩, ⟨"done", []⟩]
        same := by decide +kernel }
    let regions (rows : List (String × Bool)) :=
      Settings.regions {} { command := "make" } rows 2 rows.length
    let rows := Cut.rows true wrapping.cuts
    let otherRows := Cut.rows false wrapping.others
    let spans (rows : List (String × Bool)) :=
      (regions rows).map fun region => (region.id.number, region.start, region.stop)
    spans rows = [(1, ⟨0, 0⟩, ⟨1, 9⟩), (2, ⟨5, 0⟩, ⟨6, 0⟩)] ∧
      spans otherRows = [(1, ⟨0, 0⟩, ⟨0, 18⟩), (2, ⟨2, 0⟩, ⟨3, 0⟩)] ∧
      (regions rows).Forall₂ (wrapping.Regions ({} : Settings).limits) (regions otherRows) := by
  -- A line is cut inside a word, and an empty piece is among the rows of another.
  intro wrapping regions rows otherRows spans
  exact ⟨by decide +kernel, by decide +kernel,
    (wrapping_keeps_regions {} { command := "make" } 2 wrapping true false).2.2.1⟩

end Annotator

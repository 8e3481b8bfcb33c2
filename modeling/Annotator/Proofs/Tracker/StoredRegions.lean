import Annotator.Proofs.Tracker.History
import Annotator.Script

/-! Every stored region was valid when it was created and stays so for as long as it is stored. -/

namespace Annotator

/-- What every stored region keeps to, given the rows received when it was created. -/
structure Region.Fits (limits : Limits) (rows : Array String) (region : Region) : Prop where
  /-- It does not end before it starts. -/
  ordered : region.start ≤ region.stop
  /-- It starts at a character boundary of a received row. -/
  start : ∃ row, rows[region.start.row]? = some row ∧
    Text.isBoundaryOf row region.start.offset = true
  /-- It ends at such a boundary or where the next row would begin. -/
  stop : (∃ row, rows[region.stop.row]? = some row ∧
    Text.isBoundaryOf row region.stop.offset = true) ∨ region.stop = ⟨rows.size, 0⟩
  /-- It covers no row that had not been received. -/
  covers : ∀ row, rows.size ≤ row → region.coversRow row = false
  /-- All its actions are valid. -/
  actions : ∀ action ∈ region.metadata.actions, action.validate = .ok ()
  /-- Its tooltip keeps to the limits. -/
  tooltip : ∀ text, region.metadata.tooltip = some text → text.length ≤ limits.tooltipChars
  /-- Its menu keeps to the limits. -/
  menu : region.metadata.menu.length ≤ limits.menuEntries

namespace Scene

variable {scene : Scene} {start stop : Position}

/-- A held position is a boundary of a received row. -/
theorem holds_iff {position : Position} :
    scene.holds position = true ↔ ∃ row, scene.rows[position.row]? = some row ∧
      Text.isBoundaryOf row position.offset = true := by
  -- The row is looked up before the offset is checked.
  unfold holds
  cases found : scene.rows[position.row]? with
  | none => simp
  | some row => simp

/-- An event's regions lie between ordered positions that the received rows hold. -/
theorem Spans.held (spans : scene.Spans start stop)
    (received : ∀ line, scene.line = some line → line.ReceivedIn scene.rows) :
    start ≤ stop ∧ scene.holds start = true ∧ scene.holdsEnd stop = true := by
  -- A span lies on the current line or was given by its positions.
  rcases spans with ⟨line, first, last, current, sound, rfl, rfl⟩ | ⟨startHeld, stopHeld, ordered⟩
  · -- Boundaries of the current line are mapped to boundaries of its rows.
    unfold spanSound at sound
    simp only [Bool.and_eq_true, decide_eq_true_eq] at sound
    obtain ⟨⟨⟨ordered, _⟩, firstBounded⟩, lastBounded⟩ := sound
    have inside := received line current
    refine ⟨line.position_mono ordered, ?_, ?_⟩
    · exact holds_iff.mpr (LogicalLine.position_received inside firstBounded)
    · rw [holdsEnd, holds_iff.mpr (LogicalLine.position_received inside lastBounded)]
      rfl
  · exact ⟨ordered, startHeld, stopHeld⟩

/-- A region that ends within the received rows covers no row behind them. -/
theorem coversRow_beyond {region : Region} (startHeld : scene.holds region.start = true)
    (stopHeld : scene.holdsEnd region.stop = true) {row : Nat} (beyond : scene.rows.size ≤ row) :
    region.coversRow row = false := by
  -- The start lies in a received row, so only the end could reach further.
  obtain ⟨_, first, _⟩ := holds_iff.mp startHeld
  obtain ⟨early, _⟩ := Array.getElem?_eq_some_iff.mp first
  unfold holdsEnd at stopHeld
  -- The end lies in a received row or at the start of the row behind the last one.
  rcases Bool.or_eq_true_iff.mp stopHeld with within | edge
  · obtain ⟨_, last, _⟩ := holds_iff.mp within
    obtain ⟨late, _⟩ := Array.getElem?_eq_some_iff.mp last
    have past : ¬row ≤ region.stop.row := by omega
    simp [Region.coversRow, past]
  · -- At the start of the row behind the output nothing of that row is covered.
    have stop : region.stop = ⟨scene.rows.size, 0⟩ := by simpa using edge
    have ahead : ¬row < scene.rows.size := by omega
    have apart : ¬region.start.row = scene.rows.size := by omega
    simp [Region.coversRow, stop, ahead, apart]

/-- What an event creates fits the rows received by then. -/
theorem Creates.fits {region : Region} (creates : scene.Creates region)
    (received : ∀ line, scene.line = some line → line.ReceivedIn scene.rows) :
    region.Fits scene.limits scene.rows := by
  -- What the span of a scene holds is what a region has to fit into.
  obtain ⟨ordered, startHeld, stopHeld⟩ := creates.span.held received
  refine ⟨ordered, holds_iff.mp startHeld, ?_, fun row beyond => coversRow_beyond startHeld stopHeld
    beyond, creates.actions, creates.tooltip, creates.menu⟩
  unfold holdsEnd at stopHeld
  rcases Bool.or_eq_true_iff.mp stopHeld with within | edge
  · exact .inl (holds_iff.mp within)
  · exact .inr (by simpa using edge)

end Scene

namespace Life

variable {id : InvocationId} {life : Life} {names : List String} {running : Running}
  {limits : Limits} {table : RegionTable}

/-- A region that a matcher of a running invocation created over the rows received by then. -/
structure Draws (limits : Limits) (id : InvocationId) (names : List String) (life : Life)
    (region : Region) : Prop where
  /-- It marks the output of the invocation. -/
  invocation : region.invocation = id
  /-- It bears the name of one of the matchers. -/
  matcher : region.matcher ∈ names
  /-- It fits the received rows. -/
  fits : region.Fits limits life.received

/-- An event of a matcher draws on what the invocation received. -/
theorem draws_of_creates {slot : Slot} (named : slot.name ∈ names) {line : Option LogicalLine}
    (received : ∀ held, line = some held → held.ReceivedIn life.received) {region : Region}
    (creates : (Stage.scene { id, limits, rows := life.received } slot.name line).Creates region) :
    life.Draws limits id names region where
  -- The scene names the invocation and the matcher.
  invocation := creates.invocation
  matcher := creates.matcher ▸ named
  fits := creates.fits received

/-- A slot of a mirrored invocation has one of the names. -/
theorem Mirrors.named (mirrors : life.Mirrors names running) {slot : Slot}
    (member : slot ∈ running.slots) : slot.name ∈ names :=
  -- The slots are those that were seated.
  mirrors.names ▸ List.mem_map.mpr ⟨slot, member, rfl⟩

/-- Pushing a row adds regions that draw on the received rows, the new one among them. -/
theorem Mirrors.push_grows (mirrors : life.Mirrors names running) (row : String) (wraps : Bool) :
    table.Grows ((life.moved (.pushRow id row wraps)).Draws limits id names)
      (running.push id limits table row wraps).2.1 := by
  -- All that the slots make is drawn over the rows that were received with this one.
  have rows : running.rows.push row = (life.moved (.pushRow id row wraps)).received := by
    rw [mirrors.rows]
    simp [moved, received]
  have frame : Slot.AllFrame ((life.moved (.pushRow id row wraps)).Draws limits id names) id
      running.slots table ((running.push id limits table row wraps).1.slots,
        (running.push id limits table row wraps).2) := by
    refine Running.push_frames fun line completed slot member region creates => ?_
    rw [rows] at creates
    refine draws_of_creates (mirrors.named member) (fun held same => ?_) creates
    -- The completed line ends with the row that was pushed.
    cases same
    rw [← rows]
    exact ((mirrors.inStep.push row wraps).2 line completed).1
  exact frame.table

/-- Completing an invocation adds regions that draw on all its rows. -/
theorem Mirrors.complete_grows (mirrors : life.Mirrors names running) (exitCode : Int)
    (totalRows : Nat) :
    table.Grows (life.Draws limits id names)
      (running.complete id limits table exitCode totalRows).1 := by
  -- All that the slots make is drawn over the rows that were received.
  have lines := (LineBuffer.assemble_inStep life.rows).2
  refine (Running.complete_frames fun line known slot member region creates => ?_).1
  rw [mirrors.rows] at creates
  refine draws_of_creates (mirrors.named member) (fun held same => ?_) creates
  -- The line was retained or was left in the buffer.
  rcases known held same with retained | flushed
  · exact lines held (mirrors.retained held retained)
  · rw [← mirrors.rows]
    exact (mirrors.inStep.pending held flushed).1

end Life

namespace Tracker

variable {tracker : Tracker} {id : InvocationId}

/-- An operation at most removes regions, or it works on an invocation and draws on its rows. -/
theorem perform_table (tracker : Tracker) (operation : Operation) :
    ((tracker.perform operation).2.1.table.nextId = tracker.table.nextId ∧
      ∀ region ∈ (tracker.perform operation).2.1.table.regions,
        region ∈ tracker.table.regions) ∨
    ∃ id running, tracker.running? id = some running ∧ ∀ (life : Life) (names : List String),
      life.ending = .running → life.Mirrors names running →
        tracker.table.Grows ((life.advance id operation).Draws tracker.limits id names)
          (tracker.perform operation).2.1.table := by
  -- One case for each operation: only rows and finishing add regions.
  cases operation with
  | begin invocation =>
    rw [perform_begin]
    exact .inl ⟨rfl, fun region member => member⟩
  | pushRow id row wraps =>
    cases present : tracker.running? id with
    | none =>
      rw [perform_gone rfl present]
      exact .inl ⟨rfl, fun region member => member⟩
    | some running =>
      rw [perform_pushRow present]
      refine .inr ⟨id, running, present, fun life names still mirrors => ?_⟩
      rw [Life.advance_running rfl still]
      exact mirrors.push_grows row wraps
  | finish id exitCode totalRows =>
    cases present : tracker.running? id with
    | none =>
      rw [perform_gone rfl present]
      exact .inl ⟨rfl, fun region member => member⟩
    | some running =>
      rw [perform_finish present]
      refine .inr ⟨id, running, present, fun life names still mirrors => ?_⟩
      rw [Life.advance_running rfl still]
      -- Finishing adds no row, so the regions draw on what was received before.
      have grows : tracker.table.Grows (life.Draws tracker.limits id names)
          (running.complete id tracker.limits tracker.table exitCode totalRows).1 :=
        mirrors.complete_grows exitCode totalRows
      exact grows.mono fun region draws => ⟨draws.invocation, draws.matcher, draws.fits⟩
  | abandon id =>
    cases present : tracker.running? id with
    | none =>
      rw [perform_gone rfl present]
      exact .inl ⟨rfl, fun region member => member⟩
    | some running =>
      rw [perform_abandon present]
      exact .inl ⟨rfl, fun region member => member⟩
  | evict id => exact .inl ⟨rfl, fun region member => (List.mem_filter.mp member).1⟩
  | evictInvocation id => exact .inl ⟨rfl, fun region member => (List.mem_filter.mp member).1⟩

/-- A region was created by an operation some time after its invocation was begun. -/
structure Created (start : Tracker) (before : List Operation) (begun : Invocation)
    (between : List Operation) (operation : Operation) (region : Region) : Prop where
  /-- The region marks the output of the invocation. -/
  invocation : region.invocation = (start.course before).tracker.upcoming
  /-- It bears the name of a matcher that attached to the invocation. -/
  matcher : ∃ attachment ∈ (start.registry.resolve region.invocation begun).1,
    attachment.name = region.matcher
  /-- It was not stored before the operation. -/
  absent : region ∉ (start.course (before ++ .begin begun :: between)).tracker.table.regions
  /-- It was stored after the operation. -/
  present : region ∈
    (start.course (before ++ .begin begun :: (between ++ [operation]))).tracker.table.regions
  /-- It fits the rows that the invocation had received by then. -/
  fits : region.Fits start.limits
    (Life.after region.invocation begun (between ++ [operation])).received

/-- A region was created by one of the operations. -/
def Traces (start : Tracker) (operations : List Operation) (region : Region) : Prop :=
  -- Later operations make no difference to how it was created.
  ∃ before invocation between operation after,
    operations = before ++ .begin invocation :: (between ++ operation :: after) ∧
      start.Created before invocation between operation region

/-- A region that was created by one of the operations is so whatever follows. -/
theorem Traces.onward {start : Tracker} {operations : List Operation} {region : Region}
    (traces : start.Traces operations region) (operation : Operation) :
    start.Traces (operations ++ [operation]) region := by
  -- What comes later does not matter.
  obtain ⟨before, invocation, between, creating, after, rfl, created⟩ := traces
  exact ⟨before, invocation, between, creating, after ++ [operation], by simp, created⟩

/-- Every stored region has an issued number and was created by one of the operations. -/
theorem course_regions {start : Tracker} (idle : ∀ id, start.running? id = none)
    (empty : start.table = {}) (operations : List Operation) :
    1 ≤ (start.course operations).tracker.table.nextId ∧
      ∀ region ∈ (start.course operations).tracker.table.regions,
        1 ≤ region.id.number ∧
        region.id.number < (start.course operations).tracker.table.nextId ∧
        start.Traces operations region := by
  -- Nothing runs at the start, so every invocation that runs was begun in the course.
  have bounded : start.Bounded := fun id running present => by rw [idle] at present; cases present
  -- The induction is on the operations from the end: the last one removes regions, or works on
  -- one running invocation, whose life so far tells which rows and matchers there are.
  induction operations using List.reverseRecOn with
  | nil =>
    rw [course_nil, empty]
    exact ⟨Nat.le_refl 1, fun region member => by simp at member⟩
  | append_singleton operations operation ih =>
    obtain ⟨positive, traced⟩ := ih
    have last : (start.course (operations ++ [operation])).tracker =
        ((start.course operations).tracker.perform operation).2.1 := by
      rw [course_concat, Course.follow_tracker]
    rcases (start.course operations).tracker.perform_table operation with
      ⟨same, kept⟩ | ⟨id, running, present, grows⟩
    · -- Regions were only removed.
      rw [last, same]
      refine ⟨positive, fun region member => ?_⟩
      obtain ⟨low, high, traces⟩ := traced region (kept region member)
      exact ⟨low, high, traces.onward operation⟩
    · obtain ⟨before, invocation, between, rfl, issued, still, mirrors⟩ :=
        course_mirrors idle present
      have grown := grows _ _ still mirrors
      rw [← Life.after_concat, ← last] at grown
      refine ⟨Nat.le_trans positive grown.numbers, fun region member => ?_⟩
      rcases grown.mem member with old | ⟨draws, low, high⟩
      · obtain ⟨first, behind, traces⟩ := traced region old
        exact ⟨first, Nat.lt_of_lt_of_le behind grown.numbers, traces.onward operation⟩
      · -- The region has a new number, so it was not stored before.
        have absent : region ∉
            (start.course (before ++ .begin invocation :: between)).tracker.table.regions :=
          fun old => Nat.lt_irrefl _ (Nat.lt_of_lt_of_le (traced region old).2.1 low)
        have limits := (course_settled bounded
          (before ++ .begin invocation :: between)).2.limits
        have registry := (course_settled bounded before).2.registry
        obtain ⟨attachment, attached, named⟩ := attached_of_seated draws.matcher
        rw [registry, ← issued, ← draws.invocation] at attached
        refine ⟨Nat.le_trans positive low, high, before, invocation, between, operation, [],
          by simp, draws.invocation.trans issued, ⟨attachment, attached, named⟩, absent, ?_, ?_⟩
        · simpa using member
        · have fits := draws.fits
          rw [limits, ← draws.invocation] at fits
          exact fits

end Tracker

/--
Every stored region is valid: it was created by an operation on its invocation, under a number
that was issued, by a matcher that attached, over rows received by then.
-/
theorem stored_regions_valid (registry : Registry) (deferBuffered : Bool) (limits : Limits)
    (operations : List Operation) :
    let start := Tracker.ofRegistry registry deferBuffered limits
    ∀ region ∈ (start.course operations).tracker.table.regions,
      1 ≤ region.id.number ∧
      region.id.number < (start.course operations).tracker.table.nextId ∧
      start.Traces operations region :=
  -- The numbers and the traces are an invariant of all courses from an idle tracker.
  (Tracker.course_regions (fun _ => rfl) rfl operations).2

/-- A region over a wrapped line, created at completion with a cut tooltip, is valid. -/
theorem stored_regions_valid_wrapped :
    let tagger : Script :=
      { name := "tagger", other := [.create (some 1) (some 3) { tooltip := some "abc" } false] }
    let registry : Registry := { factories := [tagger.factory] }
    let limits : Limits := { tooltipChars := 2, menuEntries := 0 }
    let operations : List Operation :=
      [.begin { command := "ls" }, .pushRow ⟨1⟩ "ab" true, .pushRow ⟨1⟩ "cd" false,
        .finish ⟨1⟩ 0 2]
    let region : Region :=
      { id := ⟨1⟩, invocation := ⟨1⟩, matcher := "tagger", start := ⟨0, 1⟩, stop := ⟨1, 1⟩
        metadata := { tooltip := some "ab" } }
    region ∈ ((Tracker.ofRegistry registry true limits).course operations).tracker.table.regions ∧
      (Tracker.ofRegistry registry true limits).Traces operations region := by
  -- The region begins in one row and ends in the next, and its tooltip is cut.
  intro tagger registry limits operations region
  have stored : region ∈
      ((Tracker.ofRegistry registry true limits).course operations).tracker.table.regions := by
    decide
  have valid := stored_regions_valid registry true limits operations region stored
  exact ⟨stored, valid.2.2⟩

end Annotator

import Annotator.Proofs.Tracker.CallOrder

/-!
The part of one matcher in an invocation is the turns it takes, and the regions of these turns.
-/

namespace Annotator

/-- Once an invocation completed, all its matchers were started. -/
theorem Attendance.startedWith?_finished (attendance : Attendance) {exitCode : Int}
    {totalRows : Nat} (ends : attendance.life.ending = .finished exitCode totalRows) :
    attendance.startedWith? = some
      (if attendance.waits then { attendance.life.invocation with exitCode := some exitCode }
      else attendance.life.invocation) := by
  -- A matcher that waits is started when the exit code is known.
  unfold startedWith?
  rw [ends]
  cases attendance.waits <;> rfl

namespace Matcher.Enacts

variable {id : InvocationId} {limits : Limits} {received : List String} {name : String}
  {matcher last : Matcher} {turns : List Turn} {attendance : Attendance}

/-- A matcher that makes nothing at the end makes nothing in the turns that finishing calls for. -/
theorem made_finish
    (silent : ∀ scene nextId totalRows, (matcher.finish scene { nextId } totalRows).2.regions = [])
    (enacts : Enacts id limits received name matcher turns last)
    (follows : turns.map (·.call) = attendance.finishCalls) : turns.flatMap Turn.made = [] := by
  -- At most the last hook is left, and it makes nothing.
  unfold Attendance.finishCalls at follows
  cases enacts with
  | rest => rfl
  | start invocation later => split at follows <;> simp at follows
  | line heard nextId line taken later => split at follows <;> simp at follows
  | @finish _ _ turns rows heard nextId totalRows handled table done later =>
    split at follows
    · obtain ⟨_, nothing⟩ := List.cons.inj follows
      have made : table.regions = [] := by
        rw [← silent _ nextId totalRows, done]
      rw [List.map_eq_nil_iff.mp nothing]
      simp [made]
    · cases follows
    · cases follows

/-- A matcher that is started goes on with the lines if it wants the invocation. -/
theorem behind_start (enacts : Enacts id limits received name matcher turns last)
    (follows : turns.map (·.call) = attendance.calls (turns.map (·.verdict)))
    {begun : Invocation} (starts : attendance.startedWith? = some begun) :
    ∃ rest, Enacts id limits received name (matcher.start begun).matcher rest last ∧
      turns.flatMap Turn.made = rest.flatMap Turn.made ∧
      rest.map (·.call) = match Verdict.ofWish (matcher.start begun).answer with
        | .wanted => attendance.takingCalls attendance.life.lines (rest.map (·.verdict))
        | _ => [] := by
  -- The first turn is the start, whose answer decides what follows.
  unfold Attendance.calls at follows
  rw [starts] at follows
  cases enacts with
  | rest => cases follows
  | line heard nextId line taken later => cases (List.cons.inj follows).1
  | finish heard nextId totalRows done later => cases (List.cons.inj follows).1
  | @start _ _ rest given later =>
    obtain ⟨same, behind⟩ := List.cons.inj follows
    cases same
    refine ⟨rest, later, rfl, behind.trans ?_⟩
    rw [List.map_cons]
    generalize Verdict.ofWish (matcher.start begun).answer = verdict
    cases verdict <;> rfl

/-- A matcher that takes lines is given the next one, and its answer decides what follows. -/
theorem behind_line {line : LogicalLine} {lines : List LogicalLine}
    (enacts : Enacts id limits received name matcher turns last)
    (follows : turns.map (·.call) =
      attendance.takingCalls (line :: lines) (turns.map (·.verdict))) :
    ∃ (rows : Array String) (nextId : Nat) (handled : Handled Flow) (table : RegionTable)
      (rest : List Turn),
      matcher.takeLine (Stage.scene { id, limits, rows } name (some line)) { nextId } line =
          (handled, table) ∧
        Enacts id limits received name handled.matcher rest last ∧
        turns.flatMap Turn.made = table.regions ++ rest.flatMap Turn.made ∧
        rest.map (·.call) = match Verdict.ofFlow handled.answer with
          | .proceed => attendance.takingCalls lines (rest.map (·.verdict))
          | .stop => if attendance.finishPolicy = .always then attendance.finishCalls else []
          | _ => [] := by
  -- The first turn is the one with the line, whatever came before.
  cases enacts with
  | rest => cases follows
  | start invocation later => cases follows
  | finish heard nextId totalRows done later => cases follows
  | @line _ _ rest rows heard nextId given handled table taken later =>
    obtain ⟨first, behind⟩ := List.cons.inj follows
    cases (Call.line.inj first).2
    refine ⟨rows, nextId, handled, table, rest, taken, later, rfl, behind.trans ?_⟩
    rw [List.map_cons]
    dsimp only
    generalize Verdict.ofFlow handled.answer = verdict
    cases verdict <;> rfl

end Matcher.Enacts

namespace Tracker

/--
The matcher of a registered factory takes the turns that its attendance calls for, and all regions
under its name are those of these turns, except for the evicted ones.
-/
theorem exists_part {registry : Registry} (registered : registry.Registered) {factory : Factory}
    (member : factory ∈ registry.factories) (deferBuffered : Bool) (limits : Limits)
    (before : List Operation) (invocation : Invocation) (after : List Operation) :
    let start := ofRegistry registry deferBuffered limits
    let id := (start.course before).tracker.upcoming
    let operations := before ++ .begin invocation :: after
    let life := Life.after id invocation after
    factory.name ∈ (registry.resolve id invocation).1.map (·.name) →
      ∃ notes built turns last,
        factory.accepts (Registry.siteOf invocation).command invocation.workingDir = .ok true ∧
        factory.create (Registry.siteOf invocation) = (notes, .ok built) ∧
        Matcher.Enacts id limits (life.rows.map (·.1)) factory.name built turns last ∧
        turns.map (·.call) = Attendance.calls
          { id, waits := !factory.fast && deferBuffered
            finishPolicy := factory.finishPolicy, life }
          (turns.map (·.verdict)) ∧
        ((start.course operations).tracker.table.forInvocation id).filter
            (·.matcher == factory.name) =
          (turns.flatMap Turn.made).filter (fun region => !start.evicted operations region) := by
  -- The chronicle of the invocation holds the turns of all its matchers.
  intro start id operations life attaches
  obtain ⟨turns, chronicles, regions⟩ :=
    course_chronicles registered deferBuffered limits before invocation after
  -- The matcher that attaches is the one of the factory, as no other has its name.
  obtain ⟨attachment, attached, named⟩ := List.mem_map.mp attaches
  obtain ⟨origin, present, accepts, notes, built, created, rfl⟩ := Registry.resolve_origin attached
  have distinct : (registry.factories.map (·.name)).Nodup := registered.close.names_nodup
  cases List.inj_on_of_nodup_map distinct present member named
  obtain ⟨last, enacts⟩ := chronicles.enacts _ attached
  have follows := chronicles.follows _ attached
  rw [Attendance.Follows, List.map_map, List.map_map] at follows
  refine ⟨notes, built, _, last, accepts, created, enacts, follows, ?_⟩
  rw [← Turn.regions_of chronicles.made, ← regions, RegionTable.forInvocation,
    RegionTable.forInvocation, (course_thins registry deferBuffered limits _).regions]
  simp only [List.filter_filter]
  refine List.filter_congr fun region _ => ?_
  rw [← Bool.and_assoc, Bool.and_comm]

end Tracker

end Annotator

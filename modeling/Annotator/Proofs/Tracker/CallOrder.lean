import Annotator.Proofs.Tracker.Arrangement
import Annotator.Proofs.Tracker.Chronicle
import Annotator.Proofs.Tracker.Eviction

/-! The hooks of an invocation are called in one order, and its regions are numbered in it. -/

namespace Annotator

namespace Registry

variable {registry : Registry}

/-- Names that stand in the order of registration stand in the order of their positions. -/
theorem roster_rising (distinct : registry.names.Nodup) (deferBuffered : Bool)
    {names : List String} (ordered : names.Sublist registry.names) :
    names.Pairwise fun early late =>
      (registry.roster deferBuffered).position early <
        (registry.roster deferBuffered).position late := by
  -- Positions are places in the list of names, where no name occurs twice.
  refine List.Pairwise.sublist ordered (List.pairwise_iff_getElem.mpr fun i j first last less => ?_)
  simp only [roster, distinct.idxOf_getElem]
  exact less

/-- A matcher that attaches waits if its factory is not fast and waiting is allowed. -/
theorem roster_waits (distinct : registry.names.Nodup) (deferBuffered : Bool) {id : InvocationId}
    {invocation : Invocation} {attachment : Attachment}
    (attached : attachment ∈ (registry.resolve id invocation).1) :
    (registry.roster deferBuffered).waits attachment.name =
      (!attachment.fast && deferBuffered) := by
  -- No other factory has the name, so the roster finds the one that attached.
  obtain ⟨factory, member, _, _, _, _, rfl⟩ := resolve_origin attached
  have found : registry.factories.find? (·.name == factory.name) = some factory := by
    cases looked : registry.factories.find? (·.name == factory.name) with
    | none =>
      exact absurd (beq_self_eq_true factory.name) (List.find?_eq_none.mp looked factory member)
    | some other =>
      have same : other.name = factory.name := by simpa using List.find?_some looked
      rw [List.inj_on_of_nodup_map distinct (List.mem_of_find?_eq_some looked) member same]
  simp [roster, found, Bool.and_comm]

end Registry

namespace Attendance

/-- The slot of a matcher waits if the matcher is to wait. -/
theorem Attends.status {attendance : Attendance} {lines : List LogicalLine}
    {told : List (Call × Verdict)} {slot : Slot}
    (attends : attendance.Attends lines told (some slot)) :
    slot.status = .waiting ↔ attendance.waits = true := by
  -- A seated matcher waits, or it has taken a call and does not.
  cases attends with
  | waiting waits policy status => simp [waits, status]
  | taking prompt policy took => simp [prompt, took.not_waiting]

end Attendance

namespace Tracker

variable {tracker : Tracker}

/-- The playbill of an invocation that begins. -/
def playbill (tracker : Tracker) (invocation : Invocation) (asking : List Turn) : Playbill where
  roster := tracker.registry.roster tracker.deferBuffered
  attachments := (tracker.registry.resolve tracker.upcoming invocation).1
  asking
  id := tracker.upcoming
  limits := tracker.limits

/-- The seated matchers stand in the order of registration. -/
theorem seated_sublist (tracker : Tracker) (invocation : Invocation) :
    (tracker.seated invocation).Sublist tracker.registry.names :=
  -- What is seated was attached, and what was attached is registered.
  (attachAll_names _).trans (Registry.resolve_names _ _ _)

/-- The slots of an invocation always fit the roster. -/
theorem course_fits (bounded : tracker.Bounded) (distinct : tracker.registry.names.Nodup)
    (invocation : Invocation) (operations : List Operation) {running : Running}
    (present : (tracker.course (.begin invocation :: operations)).tracker.running?
      tracker.upcoming = some running) :
    (tracker.registry.roster tracker.deferBuffered).Fits running.slots := by
  -- The slots are those of attachments, in the order of the roster.
  have shown := course_life bounded invocation operations
  rw [present] at shown
  obtain ⟨_, mirrors⟩ := shown
  refine ⟨?_, fun outline member => ?_⟩
  · have rising := Registry.roster_rising distinct tracker.deferBuffered
      (tracker.seated_sublist invocation)
    rw [← mirrors.names, List.pairwise_map] at rising
    exact List.pairwise_map.mpr rising
  · obtain ⟨slot, held, rfl⟩ := List.mem_map.mp member
    -- The attendance of the matcher tells whether its slot waits.
    have named : slot.name ∈ tracker.seated invocation :=
      mirrors.names ▸ List.mem_map_of_mem held
    obtain ⟨attachment, attached, same⟩ := attached_of_seated named
    have kept := Attendance.course_kept bounded distinct invocation attached operations
    rw [present] at kept
    obtain ⟨singles, attends⟩ := kept
    obtain ⟨⟨front, back, split, apart⟩, _⟩ := singles
    rw [split] at held
    have own : slot ∈ _ := (List.mem_append.mp held).resolve_right fun behind =>
      apart slot (List.mem_append_right _ behind) same.symm
    have only := (List.mem_append.mp own).resolve_left fun before =>
      apart slot (List.mem_append_left _ before) same.symm
    rw [Option.mem_toList] at only
    cases only
    rw [Slot.outline, ← same, Registry.roster_waits distinct tracker.deferBuffered attached,
      Bool.eq_iff_iff, beq_iff_eq]
    exact attends.status

/-- The beginning of an invocation is told by asking the factories and starting matchers. -/
theorem tells_begin (bounded : tracker.Bounded) (distinct : tracker.registry.names.Nodup)
    (unstored : tracker.table.forInvocation tracker.upcoming = []) (invocation : Invocation) :
    ∃ asking, Registry.Asked tracker.upcoming
        (if (Registry.siteOf invocation).command.isEmpty then [] else tracker.registry.names)
        (tracker.registry.resolve tracker.upcoming invocation).2 asking ∧
      ∃ turns, (tracker.playbill invocation asking).Tells { invocation }
        (tracker.perform (.begin invocation)).2.2 (tracker.perform (.begin invocation)).2.1.table
        ((tracker.perform (.begin invocation)).2.1.running? tracker.upcoming) turns := by
  -- First the factories are asked one after the other, and then the matchers are seated.
  let roster := tracker.registry.roster tracker.deferBuffered
  obtain ⟨asking, asked, first⟩ : ∃ asking, Registry.Asked tracker.upcoming
      (if (Registry.siteOf invocation).command.isEmpty then [] else tracker.registry.names)
      (tracker.registry.resolve tracker.upcoming invocation).2 asking ∧
        roster.Within ⟨0, 0, 0, 0⟩ ⟨1, 0, 0, 0⟩ asking := by
    simp only [Registry.resolve_eq]
    split
    · refine ⟨[], ⟨rfl, rfl, by simp⟩, .nothing ?_⟩
      simp only [Moment.le_iff, Moment.lt_iff]
      omega
    · have rising := Registry.roster_rising distinct tracker.deferBuffered (List.Sublist.refl _)
      rw [Registry.names, List.pairwise_map] at rising
      exact Registry.consultAll_turns tracker.upcoming invocation _ roster rising 0
        fun _ _ => Nat.zero_le _
  have rising := Registry.roster_rising distinct tracker.deferBuffered
    (Registry.resolve_names tracker.registry tracker.upcoming invocation)
  rw [List.pairwise_map] at rising
  obtain ⟨started, starts, second⟩ := attachAll_turns tracker.upcoming tracker.limits invocation
    (fun attachment attached => Registry.roster_waits distinct tracker.deferBuffered attached)
    rising 0 fun _ _ => Nat.zero_le _
  refine ⟨asking, asked, asking ++ started, ?_⟩
  rw [running?_perform_begin bounded, if_pos rfl, perform_begin, playbill]
  dsimp only
  -- How the matchers were found no longer matters.
  generalize tracker.registry.resolve tracker.upcoming invocation = resolved at *
  -- No factory is asked in a turn of a hook.
  have unhooked (name : String) : Turn.hooksOf name asking = [] :=
    List.filter_eq_nil_iff.mpr fun turn member => by
      simp [Turn.isHookOf, (asked.idle turn member).1]
  refine ⟨?_, ?_, ?_, ?_, ?_, ?_⟩
  · rw [List.map_append, ← asked.calls, ← starts.calls]
    exact Journal.callsIn_append _ _
  · have idle : asking.flatMap Turn.made = [] :=
      List.flatMap_eq_nil_iff.mpr fun turn member => (asked.idle turn member).2
    rw [List.flatMap_append, idle, starts.made]
    exact unstored
  · have all : asking.filter (fun turn => !turn.call.isHook) = asking :=
      List.filter_eq_self.mpr fun turn member => by simp [(asked.idle turn member).1]
    have none : started.filter (fun turn => !turn.call.isHook) = [] :=
      List.filter_eq_nil_iff.mpr fun turn member => by simp [(starts.named turn member).1]
    rw [List.filter_append, all, none, List.append_nil]
  · intro turn member hooked
    rcases List.mem_append.mp member with early | late
    · rw [(asked.idle turn early).1] at hooked
      cases hooked
    · exact (starts.named turn late).2
  · intro attachment attached
    obtain ⟨last, enacts, held⟩ := starts.enacts attachment attached
    refine ⟨last, ?_, ?_⟩
    · rw [Turn.hooksOf, List.filter_append, ← Turn.hooksOf, ← Turn.hooksOf, unhooked,
        List.nil_append]
      exact enacts.mono (List.nil_prefix)
    · rintro running ⟨⟩ slot present same
      exact held slot present same
  · exact (first.append second).widen (Moment.le_refl _) (Moment.le_refl _)

/-- Whatever happens behind the beginning of an invocation is told by turns. -/
theorem course_tells (bounded : tracker.Bounded) (distinct : tracker.registry.names.Nodup)
    (unstored : tracker.table.forInvocation tracker.upcoming = []) (invocation : Invocation)
    {operations : List Operation} (keeps : ∀ operation ∈ operations, operation.evicts = false) :
    ∃ asking, Registry.Asked tracker.upcoming
        (if (Registry.siteOf invocation).command.isEmpty then [] else tracker.registry.names)
        (tracker.registry.resolve tracker.upcoming invocation).2 asking ∧
      ∃ turns, (tracker.playbill invocation asking).Tells
        (Life.after tracker.upcoming invocation operations)
        (tracker.course (.begin invocation :: operations)).journal
        (tracker.course (.begin invocation :: operations)).tracker.table
        ((tracker.course (.begin invocation :: operations)).tracker.running? tracker.upcoming)
        turns := by
  -- Induction on the operations from their end, after the beginning has been told.
  obtain ⟨asking, asked, begun⟩ := tells_begin bounded distinct unstored invocation
  refine ⟨asking, asked, ?_⟩
  induction operations using List.reverseRecOn with
  | nil =>
    rw [(course_singleton ..).1, (course_singleton ..).2]
    exact begun
  | append_singleton operations operation ih =>
    obtain ⟨turns, tells⟩ := ih fun other member => keeps other (List.mem_append_left _ member)
    obtain ⟨reached, settled⟩ := course_settled bounded (.begin invocation :: operations)
    rw [← List.cons_append, course_concat, Life.after_concat, Course.follow_tracker,
      Course.follow_journal]
    refine tells.perform reached (course_issued bounded invocation operations) settled.limits
      (course_life bounded invocation operations) (fun name seated => ?_)
      (fun running present => course_fits bounded distinct invocation operations present)
      (keeps operation (List.mem_append_right _ (List.mem_singleton_self _)))
    obtain ⟨attachment, attached, same⟩ := attached_of_seated seated
    dsimp only [playbill]
    exact List.mem_map.mpr ⟨attachment, attached, same⟩

/-- A number that was not issued has no regions. -/
theorem course_unstored (registry : Registry) (deferBuffered : Bool) (limits : Limits)
    (operations : List Operation) :
    let reached := ((ofRegistry registry deferBuffered limits).course operations).tracker
    reached.table.forInvocation reached.upcoming = [] := by
  -- Stored regions belong to invocations that have begun, and the next one has not.
  intro reached
  refine List.filter_eq_nil_iff.mpr fun region member same => ?_
  have begun := course_region_begun (fun _ => rfl) rfl operations region member
  rw [beq_iff_eq.mp same] at begun
  exact Nat.lt_irrefl _ begun

end Tracker

/-- An invocation stays as it was begun. -/
theorem Life.after_invocation (id : InvocationId) (invocation : Invocation)
    (operations : List Operation) : (after id invocation operations).invocation = invocation := by
  -- Induction on the operations from their end, none of which changes the invocation.
  induction operations using List.reverseRecOn with
  | nil => rfl
  | append_singleton operations operation ih =>
    rw [after_concat, advance]
    split
    · cases operation <;> exact ih
    · exact ih

/-- Evictions are no part of the life of an invocation. -/
theorem Life.after_unevicted (id : InvocationId) (invocation : Invocation)
    (operations : List Operation) :
    after id invocation (Tracker.unevicted operations) = after id invocation operations := by
  -- Induction on the operations from their end: an eviction is addressed to no invocation.
  induction operations using List.reverseRecOn with
  | nil => rfl
  | append_singleton operations operation ih =>
    rw [after_concat, Tracker.unevicted, List.filter_append, ← Tracker.unevicted]
    cases evicts : operation.evicts with
    | false =>
      rw [List.filter_cons_of_pos (by simp [evicts]), List.filter_nil, after_concat, ih]
    | true =>
      have elsewhere : operation.target? ≠ some id := by
        cases operation with
        | evict region => simp [Operation.target?]
        | evictInvocation other => simp [Operation.target?]
        | _ => cases evicts
      rw [List.filter_cons_of_neg (by simp [evicts]), List.filter_nil, List.append_nil, ih,
        advance_elsewhere elsewhere]

namespace Matcher.Enacts

/-- Starting makes no region, and all other turns of a matcher are lines or finish it. -/
theorem makes {id : InvocationId} {limits : Limits} {received : List String} {name : String}
    {first last : Matcher} {turns : List Turn}
    (enacts : Enacts id limits received name first turns last) :
    ∀ turn ∈ turns, (∃ invocation, turn.call = .start invocation ∧ turn.made = []) ∨
      turn.IsWork := by
  -- Induction on the turns: a start makes nothing, and the other turns are work.
  induction enacts with
  | rest matcher => exact fun _ member => nomatch member
  | start invocation _ ih =>
    intro turn member
    rcases List.mem_cons.mp member with rfl | behind
    · exact .inl ⟨invocation, rfl, rfl⟩
    · exact ih turn behind
  | line heard nextId line taken _ ih =>
    intro turn member
    rcases List.mem_cons.mp member with rfl | behind
    · exact .inr (.inl ⟨_, _, rfl⟩)
    · exact ih turn behind
  | finish heard nextId totalRows done _ ih =>
    intro turn member
    rcases List.mem_cons.mp member with rfl | behind
    · exact .inr (.inr ⟨_, _, rfl⟩)
    · exact ih turn behind

end Matcher.Enacts

namespace Playbill.Tells

variable {playbill : Playbill} {life : Life} {journal : Journal} {table : RegionTable}
  {found : Option Running} {turns : List Turn}

/-- Regions are made by hooks on lines and at the end, and bear the names of their matchers. -/
theorem made (tells : playbill.Tells life journal table found turns)
    (idle : ∀ turn ∈ playbill.asking, turn.made = []) :
    ∀ turn ∈ turns, ∀ region ∈ turn.made, region.matcher = turn.matcher ∧ turn.IsWork := by
  -- Questions make nothing, so the turn is one of the hooks that its matcher enacts.
  intro turn member region own
  cases hooked : turn.call.isHook with
  | false =>
    have asked : turn ∈ playbill.asking := by
      rw [← tells.asking]
      exact List.mem_filter.mpr ⟨member, by simp [hooked]⟩
    rw [idle turn asked] at own
    cases own
  | true =>
    obtain ⟨attachment, attached, same⟩ := List.mem_map.mp (tells.named turn member hooked)
    obtain ⟨last, enacts, _⟩ := tells.enacts attachment attached
    have listed : turn ∈ Turn.hooksOf attachment.name turns :=
      List.mem_filter.mpr ⟨member, Turn.isHookOf_iff.mpr ⟨same.symm, hooked⟩⟩
    have named := (enacts.made region (List.mem_flatMap.mpr ⟨turn, listed, own⟩)).2
    refine ⟨named.trans same, ?_⟩
    rcases enacts.makes turn listed with ⟨_, _, none⟩ | works
    · rw [none] at own
      cases own
    · exact works

end Playbill.Tells

/--
Turns tell of an invocation: of every call of its factories and matchers, in order, and of what
came of it.
-/
structure Registry.Chronicles (registry : Registry) (deferBuffered : Bool) (limits : Limits)
    (id : InvocationId) (invocation : Invocation) (life : Life) (journal : Journal)
    (turns : List Turn) : Prop where
  /-- There are no other calls. -/
  told : Journal.callsIn journal id = turns.map Turn.told
  /-- Each turn is taken before those behind it. -/
  rising : turns.Pairwise fun early late =>
    early.moment (registry.roster deferBuffered) < late.moment (registry.roster deferBuffered)
  /-- Every factory is asked once, unless no command is known. -/
  asked : (turns.filter (·.call.asks)).map (·.matcher) =
    if (Registry.siteOf invocation).command.isEmpty then [] else registry.names
  /-- Factories are called to find the matchers that attach, and at no other time. -/
  resolved : (turns.filter fun turn => !turn.call.isHook).map Turn.told =
    Journal.callsIn (registry.resolve id invocation).2 id
  /-- Only hooks of matchers that attached are called. -/
  named : ∀ turn ∈ turns, turn.call.isHook = true →
    turn.matcher ∈ (registry.resolve id invocation).1.map (·.name)
  /-- Just the matchers that are not fast wait, and only if they are to. -/
  waits : ∀ attachment ∈ (registry.resolve id invocation).1,
    (registry.roster deferBuffered).waits attachment.name = (!attachment.fast && deferBuffered)
  /-- A matcher's hooks are called as the life of the invocation and its own verdicts tell. -/
  follows : ∀ attachment ∈ (registry.resolve id invocation).1,
    Attendance.Follows
      { id, waits := !attachment.fast && deferBuffered, finishPolicy := attachment.finishPolicy
        life }
      ((Turn.hooksOf attachment.name turns).map fun turn => (turn.call, turn.verdict))
  /-- Each matcher enacts its turns, beginning with the state in which it was built. -/
  enacts : ∀ attachment ∈ (registry.resolve id invocation).1, ∃ last,
    Matcher.Enacts id limits (life.rows.map (·.1)) attachment.name attachment.matcher
      (Turn.hooksOf attachment.name turns) last
  /-- Regions are made on lines and at the end, and bear the names of their matchers. -/
  made : ∀ turn ∈ turns, ∀ region ∈ turn.made, region.matcher = turn.matcher ∧ turn.IsWork

namespace Tracker

/-- An invocation is told by turns from its beginning on, and so are its regions. -/
theorem chronicles_begin {tracker : Tracker} (bounded : tracker.Bounded)
    (distinct : tracker.registry.names.Nodup)
    (unstored : tracker.table.forInvocation tracker.upcoming = []) (invocation : Invocation)
    {operations : List Operation} (keeps : ∀ operation ∈ operations, operation.evicts = false) :
    let course := tracker.course (.begin invocation :: operations)
    ∃ turns, tracker.registry.Chronicles tracker.deferBuffered tracker.limits tracker.upcoming
        invocation (Life.after tracker.upcoming invocation operations) course.journal turns ∧
      course.tracker.table.forInvocation tracker.upcoming = turns.flatMap Turn.made := by
  -- The turns of the course are those that are told, with the attendance of each matcher.
  intro course
  obtain ⟨asking, asked, turns, tells⟩ := course_tells bounded distinct unstored invocation keeps
  have made := tells.made fun turn member => (asked.idle turn member).2
  obtain ⟨told, regions, first, named, enacts, within⟩ := tells
  dsimp only [playbill] at told regions first named enacts within
  refine ⟨turns, ⟨told, within.rising, ?_, ?_, named, ?_, ?_, ?_, made⟩, regions⟩
  · -- The factories are asked at the beginning, where no hook is called.
    have early : turns.filter (·.call.asks) = asking.filter (·.call.asks) := by
      rw [← first, List.filter_filter]
      refine List.filter_congr fun turn _ => ?_
      cases turn.call <;> rfl
    rw [early]
    exact asked.names
  · rw [first]
    exact asked.calls.symm
  · exact fun attachment attached =>
      Registry.roster_waits distinct tracker.deferBuffered attached
  · intro attachment attached
    have kept := Attendance.course_kept bounded distinct invocation attached operations
    have follows := kept.follows (course_life bounded invocation operations)
    rwa [Journal.hooksOf_turns told] at follows
  · intro attachment attached
    obtain ⟨last, plays, _⟩ := enacts attachment attached
    exact ⟨last, plays⟩

/-- Every invocation that a tracker begins is told by turns, and so are its regions. -/
theorem course_chronicles {registry : Registry} (registered : registry.Registered)
    (deferBuffered : Bool) (limits : Limits) (before : List Operation) (invocation : Invocation)
    (after : List Operation) :
    let start := ofRegistry registry deferBuffered limits
    let id := (start.course before).tracker.upcoming
    let operations := before ++ .begin invocation :: after
    ∃ turns, registry.Chronicles deferBuffered limits id invocation
        (Life.after id invocation after) (start.course operations).journal turns ∧
      (start.course (unevicted operations)).tracker.table.forInvocation id =
        turns.flatMap Turn.made := by
  -- Without evictions no region is missing, so the chronicle is read off that course.
  intro start id operations
  have fresh := bounded_ofRegistry registry deferBuffered limits
  have thins := course_thins registry deferBuffered limits operations
  -- The course without evictions tells the same, and keeps all regions.
  have whole : unevicted operations =
      unevicted before ++ .begin invocation :: unevicted after := by
    simp [unevicted, operations, Operation.evicts]
  obtain ⟨bounded, settled⟩ := course_settled fresh (unevicted before)
  have unstored := course_unstored registry deferBuffered limits (unevicted before)
  have earlier : Journal.callsIn (start.course (unevicted before)).journal
      (start.course (unevicted before)).tracker.upcoming = [] :=
    Journal.callsIn_eq_nil (course_calls_unissued fresh (unevicted before) (Nat.le_refl _))
  have upcoming : (start.course (unevicted before)).tracker.upcoming = id := by
    have same := congrArg Tracker.upcoming (course_thins registry deferBuffered limits before).bare
    exact same.symm
  have keeps : ∀ operation ∈ unevicted after, operation.evicts = false := fun operation member => by
    simpa using (List.mem_filter.mp member).2
  obtain ⟨tracker, journal⟩ := course_append start (unevicted before)
    (.begin invocation :: unevicted after)
  rw [thins.journal, whole, tracker, journal]
  generalize (start.course (unevicted before)).tracker = begun at *
  have distinct : begun.registry.names.Nodup := by
    rw [settled.registry]
    exact registered.close.names_nodup
  obtain ⟨turns, chronicles, regions⟩ := chronicles_begin bounded distinct unstored invocation keeps
  rw [settled.registry, settled.deferBuffered, settled.limits, upcoming,
    Life.after_unevicted] at chronicles
  rw [upcoming] at regions earlier
  refine ⟨turns, { chronicles with told := ?_ }, regions⟩
  rw [Journal.callsIn_append, earlier, List.nil_append]
  exact chronicles.told

end Tracker

/--
The hooks of an invocation are called in one order, whatever a host asks for and whatever the
matchers answer: all factories are asked and all matchers that do not wait are started before the
first line, each line goes to all matchers that take it before the next one does, and in the end
each matcher takes all its remaining calls before the next matcher does.

The regions of the invocation are those that its calls made, without those that were evicted, and
are numbered in the order of the calls.
-/
theorem calls_in_order {registry : Registry} (registered : registry.Registered)
    (deferBuffered : Bool) (limits : Limits) (before : List Operation) (invocation : Invocation)
    (after : List Operation) :
    let start := Tracker.ofRegistry registry deferBuffered limits
    let id := (start.course before).tracker.upcoming
    let operations := before ++ .begin invocation :: after
    let course := start.course operations
    ∃ turns, registry.Chronicles deferBuffered limits id invocation
        (Life.after id invocation after) course.journal turns ∧
      course.tracker.table.forInvocation id =
        (turns.flatMap Turn.made).filter (fun region => !start.evicted operations region) ∧
      (registry.roster deferBuffered).Arranges turns := by
  -- The chronicle is kept without evictions, which then remove from what the turns have made.
  intro start id operations course
  obtain ⟨turns, chronicles, regions⟩ :=
    Tracker.course_chronicles registered deferBuffered limits before invocation after
  refine ⟨turns, chronicles, ?_, Roster.arranges chronicles.rising chronicles.made ?_⟩
  · rw [RegionTable.forInvocation, (Tracker.course_thins registry deferBuffered limits _).regions,
      ← regions, RegionTable.forInvocation, List.filter_filter, List.filter_filter]
    exact List.filter_congr fun region _ => Bool.and_comm _ _
  · rw [← regions]
    exact (Tracker.course_ordered registry deferBuffered limits _).filter _

/--
The calls of two matchers, of which the first one waits, are ordered in spite of an eviction.

The matcher that waits is given its lines in the end, before the other one is finished.
-/
theorem calls_in_order_late :
    let mark : ScriptAct := .create none none {} false
    let late : Script := { name := "late", other := [mark] }
    let prompt : Script := { name := "prompt", fast := true, other := [mark] }
    let registry : Registry := { factories := [late.factory, prompt.factory] }
    let before : List Operation := [.begin { command := "top" }]
    let after : List Operation :=
      [.pushRow ⟨2⟩ "a" false, .pushRow ⟨2⟩ "b" false, .evict ⟨1⟩, .finish ⟨2⟩ 0 2]
    let site : Site := { command := "ls", server := "", terminal := "", host := "", baseDir := "/" }
    let view (rows : Nat) : View := { invocation := ⟨2⟩, rowCount := rows }
    registry.Registered ∧
      let start := Tracker.ofRegistry registry true {}
      let id := (start.course before).tracker.upcoming
      let operations := before ++ .begin { command := "ls" } :: after
      let course := start.course operations
      course.journal.callsIn id =
        [("late", .accepts "ls" "", .wanted), ("late", .create site, .done),
          ("prompt", .accepts "ls" "", .wanted), ("prompt", .create site, .done),
          ("prompt", .start { command := "ls" }, .wanted),
          ("prompt", .line (view 1) { startRow := 0, first := "a" }, .proceed),
          ("prompt", .line (view 2) { startRow := 1, first := "b" }, .proceed),
          ("late", .start { command := "ls", exitCode := some 0 }, .wanted),
          ("late", .line (view 2) { startRow := 0, first := "a" }, .proceed),
          ("late", .line (view 2) { startRow := 1, first := "b" }, .proceed),
          ("late", .finish (view 2) 2, .done), ("prompt", .finish (view 2) 2, .done)] ∧
      (course.tracker.table.forInvocation id).map
          (fun region => (region.id, region.matcher, region.start, region.stop)) =
        [(⟨2⟩, "prompt", ⟨1, 0⟩, ⟨1, 1⟩), (⟨3⟩, "late", ⟨0, 0⟩, ⟨0, 1⟩),
          (⟨4⟩, "late", ⟨1, 0⟩, ⟨1, 1⟩)] ∧
      ∃ turns, registry.Chronicles true {} id { command := "ls" }
          (Life.after id { command := "ls" } after) course.journal turns ∧
        course.tracker.table.forInvocation id =
          (turns.flatMap Turn.made).filter (fun region => !start.evicted operations region) ∧
        (registry.roster true).Arranges turns := by
  -- The two factories differ in their names.
  intro mark late prompt registry before after site view
  have registered : registry.Registered :=
    .register (.register .empty late.factory rfl) prompt.factory rfl
  -- The calls and the regions that are left are computed from the course itself.
  exact ⟨registered, by decide +kernel, by decide +kernel,
    calls_in_order registered true {} before { command := "ls" } after⟩

end Annotator

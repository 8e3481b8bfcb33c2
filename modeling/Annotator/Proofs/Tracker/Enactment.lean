import Annotator.Proofs.Region.Behind
import Annotator.Proofs.Tracker.Moments

/-! A matcher enacts its turns one after the other, each from the state that the last one left. -/

namespace Annotator

/--
A matcher enacts turns that lead it to a later state.

Each hook works with some of the rows that were received, in order from the first one on, and with
no regions but those it makes itself.
-/
inductive Matcher.Enacts (id : InvocationId) (limits : Limits) (received : List String)
    (name : String) : Matcher → List Turn → Matcher → Prop
  /-- It need not be called. -/
  | rest (matcher : Matcher) : Enacts id limits received name matcher [] matcher
  /-- It is started, which makes no region. -/
  | start {matcher last : Matcher} {turns : List Turn} (invocation : Invocation)
    (later : Enacts id limits received name (matcher.start invocation).matcher turns last) :
    Enacts id limits received name matcher
      ({ matcher := name, call := .start invocation
         verdict := .ofWish (matcher.start invocation).answer } :: turns) last
  /-- It is given a line. -/
  | line {matcher last : Matcher} {turns : List Turn} {rows : Array String}
    (heard : rows.toList <+: received) (nextId : Nat) (line : LogicalLine)
    {handled : Handled Flow} {table : RegionTable}
    (taken : matcher.takeLine (Stage.scene { id, limits, rows } name (some line)) { nextId } line =
      (handled, table))
    (later : Enacts id limits received name handled.matcher turns last) :
    Enacts id limits received name matcher
      ({ matcher := name, call := .line { invocation := id, rowCount := rows.size } line
         verdict := .ofFlow handled.answer, made := table.regions } :: turns) last
  /-- It is finished. -/
  | finish {matcher last : Matcher} {turns : List Turn} {rows : Array String}
    (heard : rows.toList <+: received) (nextId totalRows : Nat)
    {handled : Handled Unit} {table : RegionTable}
    (done : matcher.finish (Stage.scene { id, limits, rows } name none) { nextId } totalRows =
      (handled, table))
    (later : Enacts id limits received name handled.matcher turns last) :
    Enacts id limits received name matcher
      ({ matcher := name, call := .finish { invocation := id, rowCount := rows.size } totalRows
         verdict := .ofWork handled.answer, made := table.regions } :: turns) last

namespace Matcher.Enacts

variable {id : InvocationId} {limits : Limits} {received : List String} {name : String}
  {first middle last : Matcher} {turns later : List Turn}

/-- A matcher goes on from where its turns led it. -/
theorem append (early : Enacts id limits received name first turns middle)
    (late : Enacts id limits received name middle later last) :
    Enacts id limits received name first (turns ++ later) last := by
  -- Induction on the early turns, which lead to where the later ones begin.
  induction early with
  | rest matcher => exact late
  | start invocation _ ih => exact .start invocation (ih late)
  | line heard nextId line taken _ ih => exact .line heard nextId line taken (ih late)
  | finish heard nextId totalRows done _ ih => exact .finish heard nextId totalRows done (ih late)

/-- Rows received later make no difference. -/
theorem mono (enacts : Enacts id limits received name first turns last) {longer : List String}
    (goesOn : received <+: longer) : Enacts id limits longer name first turns last := by
  -- Induction on the turns: rows that were heard are heard still.
  induction enacts with
  | rest matcher => exact .rest matcher
  | start invocation _ ih => exact .start invocation ih
  | line heard nextId line taken _ ih => exact .line (heard.trans goesOn) nextId line taken ih
  | finish heard nextId totalRows done _ ih =>
    exact .finish (heard.trans goesOn) nextId totalRows done ih

/-- All turns are hook calls of the matcher. -/
theorem hooks (enacts : Enacts id limits received name first turns last) :
    ∀ turn ∈ turns, turn.isHookOf name = true := by
  -- Induction on the turns, each of which is a hook of the matcher.
  induction enacts with
  | rest matcher => exact fun _ member => nomatch member
  | start _ _ ih | line _ _ _ _ _ ih | finish _ _ _ _ _ ih =>
    intro turn member
    rcases List.mem_cons.mp member with rfl | behind
    · simp [Turn.isHookOf, Call.isHook]
    · exact ih turn behind

/-- A hook that starts from no regions makes regions of its matcher and its invocation. -/
theorem made_of_handle {scene : Scene} {nextId : Nat} {α : Type} {matcher : Matcher}
    {program : Program (Reply matcher.State α)} {handled : Handled α} {table : RegionTable}
    (done : matcher.handle scene { nextId } program = (handled, table)) :
    ∀ region ∈ table.regions,
      region.invocation = scene.invocation ∧ region.matcher = scene.matcher := by
  -- A hook adds only what its scene creates to a table without regions.
  intro region member
  have grows : RegionTable.Grows
      (fun region => region.invocation = scene.invocation ∧ region.matcher = scene.matcher)
      { nextId } (matcher.handle scene { nextId } program).2 :=
    handle_grows (fun region creates => ⟨creates.invocation, creates.matcher⟩) matcher _ program
  rw [done] at grows
  rcases grows.mem member with old | ⟨own, _⟩
  · cases old
  · exact own

/-- All regions of the turns are regions of the matcher and the invocation. -/
theorem made (enacts : Enacts id limits received name first turns last) :
    ∀ region ∈ turns.flatMap Turn.made, region.invocation = id ∧ region.matcher = name := by
  -- Induction on the turns, as a start makes nothing and the others what their scene creates.
  induction enacts with
  | rest matcher => exact fun _ member => nomatch member
  | start invocation _ ih => exact ih
  | line heard nextId line taken _ ih =>
    intro region member
    rcases List.mem_append.mp member with own | behind
    · exact made_of_handle taken region own
    · exact ih region behind
  | finish heard nextId totalRows done _ ih =>
    intro region member
    rcases List.mem_append.mp member with own | behind
    · exact made_of_handle done region own
    · exact ih region behind

end Matcher.Enacts

namespace Slot

variable {stage : Stage} {received : List String} {slot : Slot} {table : RegionTable}

/-- A step on a slot is told by the turns that its matcher enacts. -/
structure Plays (id : InvocationId) (limits : Limits) (received : List String) (slot : Slot)
    (table : RegionTable) (result : Slot × RegionTable × Journal) (turns : List Turn) : Prop where
  /-- The slot keeps its name. -/
  name : result.1.name = slot.name
  /-- The turns lead to the matcher that is left in the slot. -/
  enacts : Matcher.Enacts id limits received slot.name slot.matcher turns result.1.matcher
  /-- The regions of the turns come behind those that are there. -/
  regions : result.2.1.regions = table.regions ++ turns.flatMap Turn.made
  /-- No other call is made. -/
  calls : Journal.callsIn result.2.2 id = turns.map Turn.told

/-- Doing nothing takes no turn. -/
theorem Plays.refl (id : InvocationId) (limits : Limits) (received : List String) (slot : Slot)
    (table : RegionTable) : slot.Plays id limits received table (slot, table, []) [] :=
  -- No turn is played, and the matcher stays as it is.
  ⟨rfl, .rest slot.matcher, (List.append_nil _).symm, rfl⟩

/-- Two steps in a row are told by the turns of both. -/
theorem Plays.trans {id : InvocationId} {limits : Limits}
    {middle last : Slot × RegionTable × Journal} {turns later : List Turn}
    (first : slot.Plays id limits received table middle turns)
    (second : middle.1.Plays id limits received middle.2.1 last later) :
    slot.Plays id limits received table (last.1, last.2.1, middle.2.2 ++ last.2.2)
      (turns ++ later) where
  -- The later turns begin with the matcher that the first have left.
  name := second.name.trans first.name
  enacts := first.enacts.append (first.name ▸ second.enacts)
  regions := by
    rw [second.regions, first.regions, List.flatMap_append, List.append_assoc]
  calls := by
    rw [Journal.callsIn_append, first.calls, second.calls, List.map_append]

/-- A hook that starts from other regions as well adds those that it makes without them. -/
theorem handle_bare {scene : Scene} {matcher : Matcher} {α : Type}
    {program : Program (Reply matcher.State α)} {handled : Handled α} {made : RegionTable}
    (done : matcher.handle scene table.bare program = (handled, made)) :
    matcher.handle scene table program = (handled, made.behind table.regions) := by
  -- A hook does not look at the regions in the table.
  have behind := Matcher.handle_behind table.regions matcher scene table.bare program
  rwa [RegionTable.behind_bare, done] at behind

variable (roster : Roster)

/-- A slot that takes lines takes one turn for a line, and any other one takes none. -/
theorem deliver_plays (heard : stage.rows.toList <+: received) (slot : Slot) (table : RegionTable)
    (line : LogicalLine) :
    ∃ turns, slot.Plays stage.id stage.limits received table (slot.deliver stage table line)
        turns ∧
      (slot.status ≠ .active → turns = []) ∧
      roster.Within (roster.lineMoment slot.name line.startRow)
        (roster.lineMoment slot.name line.startRow).next turns := by
  -- A slot that is active plays one turn, and another plays none.
  by_cases active : slot.status = .active
  · generalize taken : slot.matcher.takeLine (stage.scene slot.name (some line)) table.bare line =
      result
    obtain ⟨handled, made⟩ := result
    have whole : slot.matcher.takeLine (stage.scene slot.name (some line)) table line =
        (handled, made.behind table.regions) := handle_bare taken
    let turn : Turn :=
      { matcher := slot.name
        call := .line { invocation := stage.id, rowCount := stage.rows.size } line
        verdict := .ofFlow handled.answer, made := made.regions }
    have single : roster.Within (turn.moment roster) (turn.moment roster).next [turn] :=
      .single turn
    rw [deliver_of_active active, whole]
    refine ⟨[turn], ⟨rfl, .line heard table.nextId line taken (.rest _), ?_, ?_⟩,
      fun passive => absurd active passive, single⟩
    · exact congrArg _ (List.append_nil _).symm
    · exact Journal.callsIn_hookJournal _ _ _ _ _
  · rw [deliver_of_not_active active]
    exact ⟨[], .refl _ _ _ _ _, fun _ => rfl, .nothing (Moment.le_next _)⟩

/-- Lines that begin with later and later rows are taken in turn. -/
theorem deliverLines_plays (heard : stage.rows.toList <+: received) (slot : Slot)
    (table : RegionTable) {lines : List LogicalLine} (waits : roster.waits slot.name = true)
    (rising : lines.Pairwise (·.startRow < ·.startRow)) (row : Nat)
    (behind : ∀ line ∈ lines, row ≤ line.startRow) :
    ∃ turns, slot.Plays stage.id stage.limits received table
        (slot.deliverLines stage table lines) turns ∧
      roster.Within ⟨3, roster.position slot.name, 1, row⟩ (roster.finishMoment slot.name)
        turns := by
  -- Induction on the lines, whose moments rise with their rows.
  induction lines generalizing slot table row with
  | nil =>
    refine ⟨[], .refl _ _ _ _ _, .nothing ?_⟩
    simp only [Roster.finishMoment, Moment.le_iff, Moment.lt_iff]
    omega
  | cons line rest ih =>
    obtain ⟨first, later⟩ := List.pairwise_cons.mp rising
    obtain ⟨turns, plays, _, within⟩ := slot.deliver_plays roster heard table line
    have named : roster.waits (slot.deliver stage table line).1.name = true := plays.name ▸ waits
    obtain ⟨others, playsLater, withinLater⟩ := ih (slot.deliver stage table line).1
      (slot.deliver stage table line).2.1 named later (line.startRow + 1) first
    refine ⟨turns ++ others, plays.trans playsLater, ?_⟩
    rw [plays.name] at withinLater
    have moment : roster.lineMoment slot.name line.startRow =
        ⟨3, roster.position slot.name, 1, line.startRow⟩ := if_pos waits
    rw [moment] at within
    refine (within.widen ?_ (Moment.le_refl _)).append withinLater
    have reached := behind line List.mem_cons_self
    simp only [Moment.le_iff, Moment.lt_iff]
    omega

/-- A slot that waited is started and then takes all lines in turn. -/
theorem catchUp_plays (heard : stage.rows.toList <+: received) (slot : Slot) (table : RegionTable)
    {lines : List LogicalLine} (invocation : Invocation)
    (waiting : slot.status = .waiting →
      roster.waits slot.name = true ∧ lines.Pairwise (·.startRow < ·.startRow)) :
    ∃ turns, slot.Plays stage.id stage.limits received table
        (slot.catchUp stage invocation table lines) turns ∧
      roster.Within ⟨3, roster.position slot.name, 0, 0⟩ (roster.finishMoment slot.name) turns := by
  -- A slot that waits is started and then takes the lines, and another plays nothing.
  by_cases holds : slot.status = .waiting
  · obtain ⟨waits, rising⟩ := waiting holds
    rw [catchUp_of_waiting holds]
    let handled := slot.matcher.start invocation
    let started : Slot :=
      { slot with matcher := handled.matcher, status := .afterStart handled.answer }
    let turn : Turn :=
      { matcher := slot.name, call := .start invocation, verdict := .ofWish handled.answer }
    have first : slot.Plays stage.id stage.limits received table
        (started, table, hookJournal slot.name stage.id "on_start" (.start invocation)
          (.ofWish handled.answer) handled.notes) [turn] :=
      ⟨rfl, .start invocation (.rest _), (List.append_nil _).symm,
        Journal.callsIn_hookJournal _ _ _ _ _⟩
    have single : roster.Within (turn.moment roster) (turn.moment roster).next [turn] :=
      .single turn
    have moment : turn.moment roster = ⟨3, roster.position slot.name, 0, 0⟩ := if_pos waits
    rw [moment] at single
    obtain ⟨turns, plays, within⟩ := started.deliverLines_plays roster heard table waits
      rising 0 fun _ _ => Nat.zero_le _
    refine ⟨turn :: turns, first.trans plays, single.append (within.widen ?_ (Moment.le_refl _))⟩
    simp only [Moment.le_iff, Moment.lt_iff, Moment.next, started]
    omega
  · rw [catchUp_of_not_waiting holds]
    refine ⟨[], .refl _ _ _ _ _, .nothing ?_⟩
    simp only [Roster.finishMoment, Moment.le_iff, Moment.lt_iff]
    omega

/-- A slot that wants finishing takes one turn for it. -/
theorem finish_plays (heard : stage.rows.toList <+: received) (slot : Slot) (table : RegionTable)
    (totalRows : Nat) :
    ∃ turns, slot.Plays stage.id stage.limits received table
        (slot.finish stage table totalRows) turns ∧
      roster.Within (roster.finishMoment slot.name) (roster.finishMoment slot.name).next turns := by
  -- A slot that wants its last call plays one turn, and another plays none.
  cases wanted : slot.wantsFinish with
  | true =>
    generalize taken :
      slot.matcher.finish (stage.scene slot.name none) table.bare totalRows = result
    obtain ⟨handled, made⟩ := result
    have whole : slot.matcher.finish (stage.scene slot.name none) table totalRows =
        (handled, made.behind table.regions) := handle_bare taken
    let turn : Turn :=
      { matcher := slot.name
        call := .finish { invocation := stage.id, rowCount := stage.rows.size } totalRows
        verdict := .ofWork handled.answer, made := made.regions }
    have single : roster.Within (turn.moment roster) (turn.moment roster).next [turn] :=
      .single turn
    rw [finish_of_wanting wanted, whole]
    refine ⟨[turn], ⟨rfl, .finish heard table.nextId totalRows taken (.rest _), ?_, ?_⟩, single⟩
    · exact congrArg _ (List.append_nil _).symm
    · exact Journal.callsIn_hookJournal _ _ _ _ _
  | false =>
    rw [finish_of_not_wanting wanted]
    exact ⟨[], .refl _ _ _ _ _, .nothing (Moment.le_next _)⟩

/-- All remaining turns of a slot are taken as one group. -/
theorem complete_plays (heard : stage.rows.toList <+: received) (slot : Slot) (table : RegionTable)
    {lines : List LogicalLine} (invocation : Invocation) (totalRows : Nat)
    (waiting : slot.status = .waiting →
      roster.waits slot.name = true ∧ lines.Pairwise (·.startRow < ·.startRow)) :
    ∃ turns, slot.Plays stage.id stage.limits received table
        (slot.complete stage invocation lines totalRows table) turns ∧
      roster.Within ⟨3, roster.position slot.name, 0, 0⟩ ⟨3, roster.position slot.name + 1, 0, 0⟩
        turns := by
  -- The last call comes behind all lines.
  obtain ⟨turns, plays, within⟩ := slot.catchUp_plays roster heard table invocation waiting
  obtain ⟨later, playsLater, withinLater⟩ :=
    finish_plays roster heard (slot.catchUp stage invocation table lines).1
      (slot.catchUp stage invocation table lines).2.1 totalRows
  rw [plays.name] at withinLater
  refine ⟨turns ++ later, plays.trans playsLater, (within.append withinLater).widen
    (Moment.le_refl _) ?_⟩
  simp only [Roster.finishMoment, Moment.le_iff, Moment.lt_iff, Moment.next]
  omega

/-- A step on each of several slots is told by turns, among them those of each slot's matcher. -/
structure AllPlay (id : InvocationId) (limits : Limits) (received : List String)
    (slots : List Slot) (table : RegionTable) (result : List Slot × RegionTable × Journal)
    (turns : List Turn) : Prop where
  /-- The slots keep their names and their order. -/
  names : result.1.map (·.name) = slots.map (·.name)
  /-- Each matcher enacts its own turns. -/
  enacts : ∀ slot ∈ slots, ∃ later ∈ result.1, later.name = slot.name ∧
    Matcher.Enacts id limits received slot.name slot.matcher (Turn.hooksOf slot.name turns)
      later.matcher
  /-- There are no other turns. -/
  named : ∀ turn ∈ turns, turn.call.isHook = true ∧ turn.matcher ∈ slots.map (·.name)
  /-- The regions of the turns come behind those that are there. -/
  regions : result.2.1.regions = table.regions ++ turns.flatMap Turn.made
  /-- No region belongs to another invocation. -/
  made : ∀ region ∈ turns.flatMap Turn.made, region.invocation = id
  /-- No other call is made. -/
  calls : Journal.callsIn result.2.2 id = turns.map Turn.told

/-- Slots that do nothing take no turns. -/
theorem AllPlay.refl (id : InvocationId) (limits : Limits) (received : List String)
    (slots : List Slot) (table : RegionTable) :
    AllPlay id limits received slots table (slots, table, []) [] :=
  -- No turn is played, and the matchers stay as they are.
  ⟨rfl, fun slot member => ⟨slot, member, rfl, .rest slot.matcher⟩, by simp, by simp, by simp, rfl⟩

/-- Two passes over slots of distinct names are told by the turns of both. -/
theorem AllPlay.trans {id : InvocationId} {limits : Limits} {slots : List Slot}
    {middle last : List Slot × RegionTable × Journal} {turns later : List Turn}
    (first : AllPlay id limits received slots table middle turns)
    (second : AllPlay id limits received middle.1 middle.2.1 last later) :
    AllPlay id limits received slots table (last.1, last.2.1, middle.2.2 ++ last.2.2)
      (turns ++ later) where
  -- Slot by slot, the later turns begin with the matcher that the first have left.
  names := second.names.trans first.names
  enacts slot member := by
    obtain ⟨between, present, same, early⟩ := first.enacts slot member
    obtain ⟨found, left, named, late⟩ := second.enacts between present
    refine ⟨found, left, named.trans same, ?_⟩
    rw [same] at late
    rw [Turn.hooksOf, List.filter_append]
    exact early.append late
  named turn member := by
    rcases List.mem_append.mp member with early | late
    · exact first.named turn early
    · exact first.names ▸ second.named turn late
  regions := by
    rw [second.regions, first.regions, List.flatMap_append, List.append_assoc]
  made region member := by
    rw [List.flatMap_append] at member
    exact (List.mem_append.mp member).elim (first.made region) (second.made region)
  calls := by
    rw [Journal.callsIn_append, first.calls, second.calls, List.map_append]

/--
Slots that take their turns one after the other are told by all these turns.

The slots stand in the order of their positions, and each takes its turns in the time that its
position is given.
-/
theorem each_plays {id : InvocationId} {limits : Limits}
    {step : Slot → RegionTable → Slot × RegionTable × Journal} {time : Nat → Moment}
    (onward : ∀ {i j}, i ≤ j → time i ≤ time j) {slots : List Slot}
    (steps : ∀ slot ∈ slots, ∀ table, ∃ turns,
      slot.Plays id limits received table (step slot table) turns ∧
        roster.Within (time (roster.position slot.name)) (time (roster.position slot.name + 1))
          turns)
    (rising : slots.Pairwise fun early late =>
      roster.position early.name < roster.position late.name)
    (table : RegionTable) (low : Nat) (behind : ∀ slot ∈ slots, low ≤ roster.position slot.name)
    {last : Moment} (early : ∀ position, time position ≤ last) :
    ∃ turns, AllPlay id limits received slots table (each step slots table) turns ∧
      roster.Within (time low) last turns := by
  -- Induction on the slots, each of which plays behind those in front of it.
  induction slots generalizing table low with
  | nil =>
    exact ⟨[], .refl _ _ _ _ _, .nothing (early low)⟩
  | cons slot rest ih =>
    obtain ⟨first, later⟩ := List.pairwise_cons.mp rising
    obtain ⟨turns, plays, within⟩ := steps slot List.mem_cons_self table
    obtain ⟨others, allPlay, withinLater⟩ :=
      ih (fun other member => steps other (List.mem_cons_of_mem _ member)) later
        (step slot table).2.1 (roster.position slot.name + 1) first
    have own : ∀ turn ∈ turns, turn.isHookOf slot.name = true := plays.enacts.hooks
    -- Slots at different positions have different names.
    have apart : slot.name ∉ rest.map (·.name) := by
      intro named
      obtain ⟨other, member, same⟩ := List.mem_map.mp named
      have less := first other member
      rw [same] at less
      exact Nat.lt_irrefl _ less
    refine ⟨turns ++ others, ⟨?_, ?_, ?_, ?_, ?_, ?_⟩,
      (within.widen (onward (behind slot List.mem_cons_self)) (Moment.le_refl _)).append
        withinLater⟩
    · show (step slot table).1.name :: (each step rest (step slot table).2.1).1.map (·.name) = _
      rw [plays.name, allPlay.names]
      rfl
    · intro other member
      rcases List.mem_cons.mp member with rfl | member
      · refine ⟨_, List.mem_cons_self, plays.name, ?_⟩
        have nothing : Turn.hooksOf other.name others = [] :=
          Turn.hooksOf_eq_nil fun turn taken same => apart (same ▸ (allPlay.named turn taken).2)
        have all : Turn.hooksOf other.name turns = turns := List.filter_eq_self.mpr own
        rw [Turn.hooksOf, List.filter_append, ← Turn.hooksOf, ← Turn.hooksOf, nothing, all,
          List.append_nil]
        exact plays.enacts
      · obtain ⟨found, present, same, enacts⟩ := allPlay.enacts other member
        refine ⟨found, List.mem_cons_of_mem _ present, same, ?_⟩
        have nothing : Turn.hooksOf other.name turns = [] :=
          Turn.hooksOf_eq_nil fun turn taken same => apart
            ((Turn.isHookOf_iff.mp (own turn taken)).1 ▸ same ▸ List.mem_map_of_mem member)
        rw [Turn.hooksOf, List.filter_append, ← Turn.hooksOf, ← Turn.hooksOf, nothing,
          List.nil_append]
        exact enacts
    · intro turn member
      rcases List.mem_append.mp member with mine | theirs
      · have hooked := Turn.isHookOf_iff.mp (own turn mine)
        exact ⟨hooked.2, by simp [hooked.1]⟩
      · have hooked := allPlay.named turn theirs
        exact ⟨hooked.1, List.mem_cons_of_mem _ hooked.2⟩
    · rw [List.flatMap_append, ← List.append_assoc, ← plays.regions]
      exact allPlay.regions
    · intro region member
      rw [List.flatMap_append] at member
      rcases List.mem_append.mp member with mine | theirs
      · exact (plays.enacts.made region mine).1
      · exact allPlay.made region theirs
    · rw [List.map_append, ← plays.calls, ← allPlay.calls]
      exact Journal.callsIn_append _ _

end Slot

end Annotator

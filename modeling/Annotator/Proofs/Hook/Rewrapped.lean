import Annotator.Build.Make
import Annotator.Proofs.Hook.Faultless
import Annotator.Proofs.Output.Wrapping
import Annotator.Proofs.Region.Growth

/-!
A hook that is given the same line cut in another way marks the same bytes of it, under the same
number and with the same metadata. Only a build refers to rows, and only to the last one at the end.
-/

namespace Annotator

/-- A region leads back to the first error of a build from the last one of some rows. -/
structure Region.JumpsFrom (rowCount : Nat) (limits : Limits) (region : Region) : Prop where
  /-- There is a last row. -/
  received : 0 < rowCount
  /-- The region begins at the start of the last row. -/
  start : region.start = ⟨rowCount - 1, 0⟩
  /-- It ends behind all rows. -/
  stop : region.stop = ⟨rowCount, 0⟩
  /-- The build matcher made it. -/
  matcher : region.matcher = Make.matcherName
  /-- It offers the way back to an error. -/
  metadata : ∃ firstError, region.metadata = (Make.describeJump firstError).limited limits

namespace Scene

/-- The last row of an output can be marked whenever there is one. -/
theorem createAt_lastRow {scene : Scene} {rowCount : Nat} (received : 0 < rowCount)
    (all : scene.rows.size = rowCount) (desk : Desk) (metadata : Metadata) :
    scene.createAt desk ⟨rowCount - 1, 0⟩ ⟨rowCount, 0⟩ metadata =
      scene.place desk ⟨rowCount - 1, 0⟩ ⟨rowCount, 0⟩ metadata := by
  -- The row begins and ends at positions that the output holds, in this order.
  have start : scene.holds ⟨rowCount - 1, 0⟩ = true := holds_rowStart (by omega)
  have stop : scene.holdsEnd ⟨rowCount, 0⟩ = true := holdsEnd_rowStart (by omega)
  have ordered : (⟨rowCount - 1, 0⟩ : Position) ≤ ⟨rowCount, 0⟩ :=
    .inl (Nat.sub_lt received Nat.one_pos)
  simp [createAt, start, stop, ordered]

end Scene

namespace Rewrapping

/-- What two regions mark is the same in either way of cutting the lines. -/
inductive Spans (wrapping : Rewrapping) (limits : Limits) (region other : Region) : Prop
  /-- Both mark the bytes between the same offsets of the same logical line. -/
  | onLine {line otherLine : LogicalLine} (pairs : wrapping.Pairs line otherLine) {first last : Nat}
      (sound : Scene.spanSound line.text first last = true)
      (start : region.start = line.position first) (stop : region.stop = line.position last)
      (otherStart : other.start = otherLine.position first)
      (otherStop : other.stop = otherLine.position last)
  /-- Both lead back from the last row. -/
  | atEnd (jumps : region.JumpsFrom wrapping.rowCount limits)
      (otherJumps : other.JumpsFrom wrapping.otherRowCount limits)

/-- Two regions are the same but for the rows that the lines were cut into. -/
structure Regions (wrapping : Rewrapping) (limits : Limits) (region other : Region) : Prop where
  /-- The numbers are the same. -/
  id : region.id = other.id
  /-- The invocations are the same. -/
  invocation : region.invocation = other.invocation
  /-- The matchers are the same. -/
  matcher : region.matcher = other.matcher
  /-- What they show and offer is the same. -/
  metadata : region.metadata = other.metadata
  /-- What they mark is the same. -/
  spans : wrapping.Spans limits region other

/-- Two tables are the same but for the rows that the lines were cut into. -/
structure Tables (wrapping : Rewrapping) (limits : Limits) (table other : RegionTable) : Prop where
  /-- The next numbers are the same. -/
  nextId : table.nextId = other.nextId
  /-- The regions are the same, one by one. -/
  regions : table.regions.Forall₂ (wrapping.Regions limits) other.regions

/-- Two desks are the same but for the rows that the lines were cut into. -/
structure Desks (wrapping : Rewrapping) (limits : Limits) (desk other : Desk) : Prop where
  /-- The tables are the same. -/
  table : wrapping.Tables limits desk.table other.table
  /-- The reservations are the same. -/
  reserved : desk.reserved = other.reserved

/-- Two creations are settled alike when they are answered alike and leave desks that are alike. -/
structure Settled (wrapping : Rewrapping) (limits : Limits)
    (settled other : Except RegionError RegionId × Desk) : Prop where
  /-- The answers are the same. -/
  answer : settled.1 = other.1
  /-- The desks are the same. -/
  desk : wrapping.Desks limits settled.2 other.2

/-- Two events are about the same line, and a build may refer to the end where rows are complete. -/
structure Scenes (wrapping : Rewrapping) (jumps : Prop) (scene other : Scene) : Prop where
  /-- The invocations are the same. -/
  invocation : scene.invocation = other.invocation
  /-- The matchers are the same. -/
  matcher : scene.matcher = other.matcher
  /-- The limits are the same. -/
  limits : scene.limits = other.limits
  /-- The lines are cut from the same logical line. -/
  line : Option.Rel wrapping.Pairs scene.line other.line
  /-- Where the end may be referred to, all rows have been received by the build matcher. -/
  ends : jumps → scene.matcher = Make.matcherName ∧ scene.rows.size = wrapping.rowCount ∧
    other.rows.size = wrapping.otherRowCount

/-- Two programs do the same, and refer to rows at most to lead back from the last one. -/
inductive Programs (wrapping : Rewrapping) {α : Type} (related : α → α → Prop) (jumps : Prop) :
    Program α → Program α → Prop
  /-- Both reach related values. -/
  | done {value other : α} (same : related value other) :
    Programs wrapping related jumps (.done value) (.done other)
  /-- Both leave a note. -/
  | tell (note otherNote : Note) {next other : Program α}
    (onward : Programs wrapping related jumps next other) :
    Programs wrapping related jumps (.tell note next) (.tell otherNote other)
  /-- Both reserve a number. -/
  | reserve {next other : RegionId → Program α}
    (onward : ∀ id, Programs wrapping related jumps (next id) (other id)) :
    Programs wrapping related jumps (.reserve next) (.reserve other)
  /-- Both create a region over the same bytes. -/
  | create (start stop : Nat) (metadata : Metadata)
    {next other : Except RegionError RegionId → Program α}
    (onward : ∀ answer, Programs wrapping related jumps (next answer) (other answer)) :
    Programs wrapping related jumps (.create start stop metadata next)
      (.create start stop metadata other)
  /-- Both lead back from the last row. -/
  | jump (allowed : jumps) (received : 0 < wrapping.rowCount)
    (otherReceived : 0 < wrapping.otherRowCount) (firstError : RegionId)
    {next other : Except RegionError RegionId → Program α}
    (onward : ∀ answer, Programs wrapping related jumps (next answer) (other answer)) :
    Programs wrapping related jumps
      (.createAt ⟨wrapping.rowCount - 1, 0⟩ ⟨wrapping.rowCount, 0⟩
        (Make.describeJump firstError) next)
      (.createAt ⟨wrapping.otherRowCount - 1, 0⟩ ⟨wrapping.otherRowCount, 0⟩
        (Make.describeJump firstError) other)

variable {wrapping : Rewrapping} {limits : Limits} {jumps : Prop} {scene otherScene : Scene}
  {table otherTable : RegionTable} {desk otherDesk : Desk}

/-- The same number is reserved on either side. -/
theorem Desks.reserve (same : wrapping.Desks limits desk otherDesk) :
    desk.reserve.1 = otherDesk.reserve.1 ∧
      wrapping.Desks limits desk.reserve.2 otherDesk.reserve.2 := by
  -- Either both have a reservation, which is handed out again, or both allocate.
  obtain ⟨⟨next, regions⟩, reserved⟩ := same
  obtain ⟨held, standing⟩ := desk
  obtain ⟨otherHeld, otherStanding⟩ := otherDesk
  obtain rfl : standing = otherStanding := reserved
  cases standing with
  | some id => exact ⟨rfl, ⟨next, regions⟩, rfl⟩
  | none =>
    have issued : held.allocate.1 = otherHeld.allocate.1 := congrArg RegionId.mk next
    exact ⟨issued, ⟨congrArg (· + 1) next, regions⟩, congrArg some issued⟩

/-- The same number is claimed on either side. -/
theorem Desks.claim (same : wrapping.Desks limits desk otherDesk) :
    desk.claim.1 = otherDesk.claim.1 ∧
      wrapping.Tables limits desk.claim.2.table otherDesk.claim.2.table := by
  -- Either both have a reservation, which is used up, or both allocate.
  obtain ⟨⟨next, regions⟩, reserved⟩ := same
  obtain ⟨held, standing⟩ := desk
  obtain ⟨otherHeld, otherStanding⟩ := otherDesk
  obtain rfl : standing = otherStanding := reserved
  cases standing with
  | some id => exact ⟨rfl, next, regions⟩
  | none => exact ⟨congrArg RegionId.mk next, congrArg (· + 1) next, regions⟩

/-- Placing the same metadata over what is the same is settled alike. -/
theorem Scenes.place (scenes : wrapping.Scenes jumps scene otherScene)
    (same : wrapping.Desks scene.limits desk otherDesk) {metadata : Metadata}
    {start stop otherStart otherStop : Position}
    (spans : ∀ id, wrapping.Spans scene.limits (scene.drawn id start stop metadata)
      (otherScene.drawn id otherStart otherStop metadata)) :
    wrapping.Settled scene.limits (desk.settle (scene.place desk start stop metadata))
      (otherDesk.settle (otherScene.place otherDesk otherStart otherStop metadata)) := by
  -- The check depends on the metadata alone, so both are refused or both are placed.
  unfold Scene.place
  cases metadata.validate with
  | error error => exact ⟨rfl, same⟩
  | ok _ =>
    obtain ⟨claimed, tables⟩ := same.claim
    have made : wrapping.Regions scene.limits (scene.drawn desk.claim.1 start stop metadata)
        (otherScene.drawn otherDesk.claim.1 otherStart otherStop metadata) := by
      rw [← claimed]
      exact ⟨rfl, scenes.invocation, scenes.matcher,
        congrArg metadata.limited scenes.limits, spans desk.claim.1⟩
    refine ⟨congrArg Except.ok claimed,
      ⟨tables.nextId, List.rel_append tables.regions (.cons made .nil)⟩, ?_⟩
    show desk.claim.2.reserved = otherDesk.claim.2.reserved
    rw [desk.claim_reserved, otherDesk.claim_reserved]

/-- Creating on the same logical line is settled alike, in whichever way it is cut. -/
theorem Scenes.createOnLine (scenes : wrapping.Scenes jumps scene otherScene)
    (same : wrapping.Desks scene.limits desk otherDesk) (start stop : Nat) (metadata : Metadata) :
    wrapping.Settled scene.limits (desk.settle (scene.createOnLine desk start stop metadata))
      (otherDesk.settle (otherScene.createOnLine otherDesk start stop metadata)) := by
  -- The text of the line is the same, so the span is sound in both ways or in neither.
  have lines := scenes.line
  unfold Scene.createOnLine
  generalize scene.line = held, otherScene.line = otherHeld at lines ⊢
  cases lines with
  | none => exact ⟨rfl, same⟩
  | some pairs =>
    dsimp only
    rw [← pairs.text]
    split
    · rename_i sound
      exact scenes.place same fun id => .onLine pairs sound rfl rfl rfl rfl
    · exact ⟨rfl, same⟩

/-- Leading back from the last row is settled alike, whatever its number. -/
theorem Scenes.jump (scenes : wrapping.Scenes jumps scene otherScene) (allowed : jumps)
    (same : wrapping.Desks scene.limits desk otherDesk) (received : 0 < wrapping.rowCount)
    (otherReceived : 0 < wrapping.otherRowCount) (firstError : RegionId) :
    wrapping.Settled scene.limits
      (desk.settle (scene.createAt desk ⟨wrapping.rowCount - 1, 0⟩ ⟨wrapping.rowCount, 0⟩
        (Make.describeJump firstError)))
      (otherDesk.settle (otherScene.createAt otherDesk ⟨wrapping.otherRowCount - 1, 0⟩
        ⟨wrapping.otherRowCount, 0⟩ (Make.describeJump firstError))) := by
  -- The last row is there in both ways, and marking it is not refused.
  obtain ⟨named, all, otherAll⟩ := scenes.ends allowed
  rw [Scene.createAt_lastRow received all, Scene.createAt_lastRow otherReceived otherAll]
  refine scenes.place same fun id => .atEnd ?_ ?_
  · exact ⟨received, rfl, rfl, named, firstError, rfl⟩
  · exact ⟨otherReceived, rfl, rfl, scenes.matcher.symm.trans named, firstError, by
      rw [scenes.limits]; rfl⟩

/-- Programs that do the same reach related values and leave desks that are the same. -/
theorem Programs.run {α : Type} {related : α → α → Prop} {program other : Program α}
    (programs : wrapping.Programs related jumps program other)
    (scenes : wrapping.Scenes jumps scene otherScene)
    (same : wrapping.Desks scene.limits desk otherDesk) :
    related (program.run scene desk).value (other.run otherScene otherDesk).value ∧
      wrapping.Desks scene.limits (program.run scene desk).desk
        (other.run otherScene otherDesk).desk := by
  -- Every step is answered alike, so the programs go on with the same answers.
  induction programs generalizing desk otherDesk with
  | done value => exact ⟨value, same⟩
  | tell note otherNote onward ih => exact ih same
  | reserve onward ih =>
    obtain ⟨answer, desks⟩ := same.reserve
    simp only [Program.run, ← answer]
    exact ih desk.reserve.1 desks
  | create start stop metadata onward ih =>
    obtain ⟨answer, desks⟩ := scenes.createOnLine same start stop metadata
    simp only [Program.run, ← answer]
    exact ih _ desks
  | jump allowed received otherReceived firstError onward ih =>
    obtain ⟨answer, desks⟩ := scenes.jump allowed same received otherReceived firstError
    simp only [Program.run, ← answer]
    exact ih _ desks

/-- Two replies are the same up to how the states are related. -/
structure Replies {σ α : Type} (states : σ → σ → Prop) (reply other : Reply σ α) : Prop where
  /-- The states are related. -/
  state : states reply.state other.state
  /-- The decisions are the same. -/
  answer : reply.answer = other.answer

/-- The hooks of the machine of a matcher do the same in related states. -/
structure Respects (wrapping : Rewrapping) (name : String) {σ : Type} (machine : Machine σ)
    (states : σ → σ → Prop) : Prop where
  /-- Starting leads to the same decision. -/
  start : ∀ (invocation : Invocation) {state other : σ}, states state other →
    Replies states (machine.onStart invocation state).2 (machine.onStart invocation other).2
  /-- The same is done on a line, in whichever way it is cut. -/
  line : ∀ (view otherView : View) {line otherLine : LogicalLine} {state other : σ},
    wrapping.Pairs line otherLine → states state other →
      wrapping.Programs (Replies states) False (machine.onLine view line state)
        (machine.onLine otherView otherLine other)
  /-- The same is done at the end, and only a build refers to it. -/
  finish : ∀ {view otherView : View} {state other : σ}, view.rowCount = wrapping.rowCount →
    otherView.rowCount = wrapping.otherRowCount → states state other →
      wrapping.Programs (Replies states) (name = Make.matcherName)
        (machine.onFinish view wrapping.rowCount state)
        (machine.onFinish otherView wrapping.otherRowCount other)

/-- Two matchers of a name are the same up to how the states of their machine are related. -/
inductive Matchers (wrapping : Rewrapping) (name : String) : Matcher → Matcher → Prop
  /-- The machine is shared. -/
  | intro {σ : Type} {machine : Machine σ} {states : σ → σ → Prop}
    (respects : wrapping.Respects name machine states) {state other : σ}
    (related : states state other) :
    Matchers wrapping name { State := σ, machine, state } { State := σ, machine, state := other }

/-- What two hooks leave is the same but for the rows that the lines were cut into. -/
structure HandledAlike (wrapping : Rewrapping) (name : String) (limits : Limits) {α : Type}
    (handled other : Handled α × RegionTable) : Prop where
  /-- The matchers are the same. -/
  matcher : wrapping.Matchers name handled.1.matcher other.1.matcher
  /-- The decisions are the same. -/
  answer : handled.1.answer = other.1.answer
  /-- The tables are the same. -/
  table : wrapping.Tables limits handled.2 other.2

variable {name : String} {matcher otherMatcher : Matcher}

/-- Running the programs of two hooks leaves what is the same. -/
theorem Programs.handle {σ α : Type} {machine : Machine σ} {states : σ → σ → Prop}
    (respects : wrapping.Respects name machine states) {state otherState : σ}
    {program other : Program (Reply σ α)}
    (programs : wrapping.Programs (Replies states) jumps program other)
    (scenes : wrapping.Scenes jumps scene otherScene)
    (tables : wrapping.Tables scene.limits table otherTable) :
    wrapping.HandledAlike name scene.limits
      (Matcher.handle { State := σ, machine, state } scene table program)
      (Matcher.handle { State := σ, machine, state := otherState } otherScene otherTable
        other) := by
  -- The hook begins without a reservation in either way.
  have fresh : wrapping.Desks scene.limits { table } { table := otherTable } := ⟨tables, rfl⟩
  obtain ⟨reply, desks⟩ := programs.run scenes fresh
  exact ⟨.intro respects reply.state, reply.answer, desks.table⟩

/-- Starting matchers that are the same leaves them the same, and they decide alike. -/
theorem Matchers.start (same : wrapping.Matchers name matcher otherMatcher)
    (invocation : Invocation) :
    wrapping.Matchers name (matcher.start invocation).matcher
        (otherMatcher.start invocation).matcher ∧
      (matcher.start invocation).answer = (otherMatcher.start invocation).answer := by
  -- The machine is shared, and it respects how the states relate.
  cases same with
  | intro respects related =>
    obtain ⟨states, answer⟩ := respects.start invocation related
    exact ⟨.intro respects states, answer⟩

/-- Handing the same logical line to matchers that are the same leaves what is the same. -/
theorem Matchers.takeLine (same : wrapping.Matchers name matcher otherMatcher)
    (scenes : wrapping.Scenes False scene otherScene)
    (tables : wrapping.Tables scene.limits table otherTable) {line otherLine : LogicalLine}
    (pairs : wrapping.Pairs line otherLine) :
    wrapping.HandledAlike name scene.limits (matcher.takeLine scene table line)
      (otherMatcher.takeLine otherScene otherTable otherLine) := by
  -- The machine is shared, and a hook on a line does not refer to the end.
  cases same with
  | intro respects related =>
    exact (respects.line scene.view otherScene.view pairs related).handle respects scenes tables

/-- Finishing matchers that are the same over all rows leaves what is the same. -/
theorem Matchers.finish (same : wrapping.Matchers name matcher otherMatcher)
    (scenes : wrapping.Scenes (name = Make.matcherName) scene otherScene)
    (tables : wrapping.Tables scene.limits table otherTable)
    (all : scene.rows.size = wrapping.rowCount)
    (otherAll : otherScene.rows.size = wrapping.otherRowCount) :
    wrapping.HandledAlike name scene.limits (matcher.finish scene table wrapping.rowCount)
      (otherMatcher.finish otherScene otherTable wrapping.otherRowCount) := by
  -- All rows have been received, so the hook knows their number from its view.
  cases same with
  | intro respects related =>
    have received : scene.view.rowCount = wrapping.rowCount := all
    have otherReceived : otherScene.view.rowCount = wrapping.otherRowCount := otherAll
    exact (respects.finish received otherReceived related).handle respects scenes tables

end Rewrapping

end Annotator

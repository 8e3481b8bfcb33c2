import Annotator.Hook.Matcher
import Annotator.Proofs.Region.Metadata

/-! Hooks only add regions to the table, and every region they add fits the scene of the hook. -/

namespace Annotator

namespace RegionTable

/-- A table continues an older one by regions that are allowed and have new numbers. -/
structure Grows (allowed : Region → Prop) (old new : RegionTable) : Prop where
  /-- No number is taken back. -/
  numbers : old.nextId ≤ new.nextId
  /-- What was there stays in front of what is new. -/
  regions : ∃ created, new.regions = old.regions ++ created ∧ ∀ region ∈ created,
    allowed region ∧ old.nextId ≤ region.id.number ∧ region.id.number < new.nextId

/-- A table continues itself. -/
@[refl] theorem Grows.refl (allowed : Region → Prop) (table : RegionTable) :
    table.Grows allowed table :=
  -- Nothing is created and no number is used.
  ⟨Nat.le_refl _, [], by simp⟩

/-- Continuations follow one another. -/
theorem Grows.trans {allowed : Region → Prop} {first second third : RegionTable}
    (early : first.Grows allowed second) (late : second.Grows allowed third) :
    first.Grows allowed third := by
  -- The regions of both continuations are new with respect to the first table.
  obtain ⟨earlyNumbers, created, same, fits⟩ := early
  obtain ⟨lateNumbers, added, sameLater, fitsLater⟩ := late
  refine ⟨by omega, created ++ added, by simp [sameLater, same], ?_⟩
  intro region member
  rcases List.mem_append.mp member with old | new
  · have bounds := fits region old
    exact ⟨bounds.1, bounds.2.1, by omega⟩
  · have bounds := fitsLater region new
    exact ⟨bounds.1, by omega, bounds.2.2⟩

/-- A weaker condition allows the same continuation. -/
theorem Grows.mono {allowed permitted : Region → Prop} {old new : RegionTable}
    (grows : old.Grows allowed new) (weaker : ∀ region, allowed region → permitted region) :
    old.Grows permitted new := by
  -- What was created is allowed the more.
  obtain ⟨numbers, created, same, fits⟩ := grows
  exact ⟨numbers, created, same, fun region member =>
    ⟨weaker region (fits region member).1, (fits region member).2⟩⟩

/-- A region of a continuation was there before or is allowed and new. -/
theorem Grows.mem {allowed : Region → Prop} {old new : RegionTable}
    (grows : old.Grows allowed new) {region : Region} (member : region ∈ new.regions) :
    region ∈ old.regions ∨
      (allowed region ∧ old.nextId ≤ region.id.number ∧ region.id.number < new.nextId) := by
  -- A region of the new table is one of the old table or one of those created.
  obtain ⟨_, created, same, fits⟩ := grows
  rw [same] at member
  exact (List.mem_append.mp member).imp_right (fits region)

end RegionTable

/-- Positions between which an event may create a region. -/
def Scene.Spans (scene : Scene) (start stop : Position) : Prop :=
  -- Either the bytes of the current line are addressed or the rows received so far.
  (∃ line first last, scene.line = some line ∧ Scene.spanSound line.text first last = true ∧
      start = line.position first ∧ stop = line.position last) ∨
    (scene.holds start = true ∧ scene.holdsEnd stop = true ∧ start ≤ stop)

/-- What is known of every region that an event creates. -/
structure Scene.Creates (scene : Scene) (region : Region) : Prop where
  /-- It marks the output of the event's invocation. -/
  invocation : region.invocation = scene.invocation
  /-- It bears the name of the matcher that acts. -/
  matcher : region.matcher = scene.matcher
  /-- It lies where the event may create regions. -/
  span : scene.Spans region.start region.stop
  /-- All its actions are valid. -/
  actions : ∀ action ∈ region.metadata.actions, action.validate = .ok ()
  /-- Its tooltip keeps to the limits. -/
  tooltip : ∀ text, region.metadata.tooltip = some text →
    text.length ≤ scene.limits.tooltipChars
  /-- Its menu keeps to the limits. -/
  menu : region.metadata.menu.length ≤ scene.limits.menuEntries

/-- Claiming a number leaves no reservation. -/
theorem Desk.claim_reserved (desk : Desk) : desk.claim.2.reserved = none := by
  -- A reservation is used up, and without one there is none to begin with.
  unfold claim
  cases desk.reserved <;> rfl

namespace Scene

/-- The region that a scene makes between two positions. -/
def drawn (scene : Scene) (id : RegionId) (start stop : Position) (metadata : Metadata) : Region :=
  -- The invocation and the matcher are those of the scene.
  { id, invocation := scene.invocation, matcher := scene.matcher, start, stop
    metadata := metadata.limited scene.limits }

/-- Placing succeeds exactly on valid metadata and then stores one region under one number. -/
theorem place_eq_ok_iff {scene : Scene} {desk next : Desk} {start stop : Position}
    {metadata : Metadata} {id : RegionId} :
    scene.place desk start stop metadata = .ok (id, next) ↔
      metadata.validate = .ok () ∧ id = desk.claim.1 ∧
        next = ⟨desk.claim.2.table.insert (scene.drawn id start stop metadata), none⟩ := by
  -- The answer of the validation decides which branch is taken.
  have unreserved := desk.claim_reserved
  cases checked : metadata.validate with
  | error error => simp [place, checked]
  | ok done =>
    simp only [place, checked, Except.ok.injEq, Prod.mk.injEq, true_and]
    constructor
    · rintro ⟨rfl, rfl⟩
      exact ⟨rfl, by rw [unreserved]; rfl⟩
    · rintro ⟨rfl, rfl⟩
      exact ⟨rfl, by rw [unreserved]; rfl⟩

/-- A region drawn between permitted positions fits the scene. -/
theorem creates_drawn {scene : Scene} {start stop : Position} {metadata : Metadata}
    (valid : metadata.validate = .ok ()) (span : scene.Spans start stop) (id : RegionId) :
    scene.Creates (scene.drawn id start stop metadata) where
  -- What is drawn has the metadata that were given, cut to the limits.
  invocation := rfl
  matcher := rfl
  span := span
  actions action member :=
    Metadata.validate_eq_ok_iff.mp valid action (Metadata.mem_actions_of_limited member)
  tooltip text kept := by
    -- A kept tooltip is the front of the given one.
    obtain ⟨given, _, rfl⟩ := Option.map_eq_some_iff.mp kept
    rw [String.length_ofList]
    exact List.length_take_le _ _
  menu := List.length_take_le _ _

/-- Creating on the current line succeeds only over a sound span of it. -/
theorem createOnLine_eq_ok {scene : Scene} {desk next : Desk} {first last : Nat}
    {metadata : Metadata} {id : RegionId}
    (created : scene.createOnLine desk first last metadata = .ok (id, next)) :
    ∃ line, scene.line = some line ∧ spanSound line.text first last = true ∧
      scene.place desk (line.position first) (line.position last) metadata = .ok (id, next) := by
  -- The two checks in front have passed.
  unfold createOnLine at created
  cases current : scene.line with
  | none => simp [current] at created
  | some line =>
    simp only [current] at created
    split at created
    · rename_i sound
      exact ⟨line, rfl, sound, created⟩
    · simp at created

/-- Creating between positions succeeds only between positions that the output holds. -/
theorem createAt_eq_ok {scene : Scene} {desk next : Desk} {start stop : Position}
    {metadata : Metadata} {id : RegionId}
    (created : scene.createAt desk start stop metadata = .ok (id, next)) :
    scene.holds start = true ∧ scene.holdsEnd stop = true ∧ start ≤ stop ∧
      scene.place desk start stop metadata = .ok (id, next) := by
  -- The three checks in front have passed.
  unfold createAt at created
  split at created
  · simp at created
  · rename_i startHeld
    split at created
    · simp at created
    · rename_i stopHeld
      split at created
      · rename_i ordered
        exact ⟨by simpa using startHeld, by simpa using stopHeld, ordered, created⟩
      · simp at created

end Scene

namespace Desk

/-- A desk continues a table when its own table does and its reservation is a new number. -/
structure Continues (allowed : Region → Prop) (old : RegionTable) (desk : Desk) : Prop where
  /-- The table of the desk only grew. -/
  table : old.Grows allowed desk.table
  /-- A reserved number was issued since. -/
  reserved : ∀ id, desk.reserved = some id →
    old.nextId ≤ id.number ∧ id.number < desk.table.nextId

variable {allowed : Region → Prop} {old : RegionTable} {desk : Desk}

/-- Allocating a number continues a table. -/
theorem grows_allocate (grows : old.Grows allowed desk.table) :
    old.Grows allowed desk.table.allocate.2 := by
  -- Only the next number goes up.
  obtain ⟨numbers, created, same, fits⟩ := grows
  refine ⟨Nat.le_succ_of_le numbers, created, same, fun region member => ?_⟩
  have bounds := fits region member
  exact ⟨bounds.1, bounds.2.1, Nat.lt_succ_of_lt bounds.2.2⟩

/-- Reserving continues a table. -/
theorem Continues.reserve (continues : desk.Continues allowed old) :
    desk.reserve.2.Continues allowed old := by
  -- A standing reservation changes nothing, and a fresh one is the number just issued.
  unfold Desk.reserve
  cases held : desk.reserved with
  | some id => exact continues
  | none =>
    refine ⟨grows_allocate continues.table, fun id same => ?_⟩
    cases same
    exact ⟨continues.table.numbers, Nat.lt_succ_self _⟩

/-- Claiming a number continues a table, and the number is new and issued. -/
theorem Continues.claim (continues : desk.Continues allowed old) :
    old.Grows allowed desk.claim.2.table ∧
      old.nextId ≤ desk.claim.1.number ∧ desk.claim.1.number < desk.claim.2.table.nextId := by
  -- The number is the reserved one or the next one, and both are new to the old table.
  unfold Desk.claim
  cases held : desk.reserved with
  | some id => exact ⟨continues.table, continues.reserved id held⟩
  | none => exact ⟨grows_allocate continues.table, continues.table.numbers, Nat.lt_succ_self _⟩

/-- Placing a region continues a table when the region it draws is allowed. -/
theorem Continues.placeDrawn {scene : Scene} {next : Desk} {start stop : Position}
    {metadata : Metadata} {id : RegionId} (continues : desk.Continues allowed old)
    (fits : metadata.validate = .ok () → ∀ id, allowed (scene.drawn id start stop metadata))
    (placed : scene.place desk start stop metadata = .ok (id, next)) :
    next.Continues allowed old := by
  -- The one region that is added bears the claimed number.
  obtain ⟨valid, rfl, rfl⟩ := Scene.place_eq_ok_iff.mp placed
  obtain ⟨⟨numbers, created, same, known⟩, low, high⟩ := continues.claim
  let region := scene.drawn desk.claim.1 start stop metadata
  refine ⟨⟨numbers, created ++ [region], ?_, ?_⟩, fun id held => by simp at held⟩
  · simp only [RegionTable.insert, same, List.append_assoc, region]
  · intro other member
    rcases List.mem_append.mp member with before | new
    · exact known other before
    · rw [List.mem_singleton.mp new]
      exact ⟨fits valid _, low, high⟩

/-- Placing an allowed region continues a table. -/
theorem Continues.place {scene : Scene} {next : Desk} {start stop : Position}
    {metadata : Metadata} {id : RegionId} (continues : desk.Continues allowed old)
    (span : scene.Spans start stop) (creates : ∀ region, scene.Creates region → allowed region)
    (placed : scene.place desk start stop metadata = .ok (id, next)) :
    next.Continues allowed old :=
  -- What the metadata give on a span of the scene is what the scene creates.
  continues.placeDrawn (fun valid id => creates _ (Scene.creates_drawn valid span id)) placed

/-- The answer to a creation continues a table, whether or not the creation succeeded. -/
theorem Continues.settle {result : Except RegionError (RegionId × Desk)}
    (continues : desk.Continues allowed old)
    (success : ∀ id next, result = .ok (id, next) → next.Continues allowed old) :
    (desk.settle result).2.Continues allowed old := by
  -- A rejected creation leaves the desk as it was.
  cases result with
  | error error => exact continues
  | ok made => exact success made.1 made.2 rfl

end Desk

namespace Program

/-- Every step of a program continues the table from which its hook started. -/
theorem run_continues {scene : Scene} {allowed : Region → Prop} {old : RegionTable} {α : Type}
    (creates : ∀ region, scene.Creates region → allowed region) (program : Program α)
    {desk : Desk} (continues : desk.Continues allowed old) :
    (program.run scene desk).desk.Continues allowed old := by
  -- The induction follows the program through every answer it may be given.
  induction program generalizing desk with
  | done value => exact continues
  | tell note next ih => exact ih continues
  | reserve next ih => exact ih _ continues.reserve
  | create start stop metadata next ih =>
    refine ih _ (continues.settle fun id made created => ?_)
    obtain ⟨line, current, sound, placed⟩ := Scene.createOnLine_eq_ok created
    exact continues.place (.inl ⟨line, start, stop, current, sound, rfl, rfl⟩) creates placed
  | createAt start stop metadata next ih =>
    refine ih _ (continues.settle fun id made created => ?_)
    obtain ⟨startHeld, stopHeld, ordered, placed⟩ := Scene.createAt_eq_ok created
    exact continues.place (.inr ⟨startHeld, stopHeld, ordered⟩) creates placed

end Program

namespace Matcher

/-- A hook adds to the table only regions that fit its scene. -/
theorem handle_grows {scene : Scene} {allowed : Region → Prop} {α : Type}
    (creates : ∀ region, scene.Creates region → allowed region) (matcher : Matcher)
    (table : RegionTable) (program : Program (Reply matcher.State α)) :
    table.Grows allowed (matcher.handle scene table program).2 :=
  -- The desk of the hook starts from the table without a reservation.
  (Program.run_continues creates program
    ⟨RegionTable.Grows.refl allowed table, fun id held => by simp at held⟩).table

end Matcher

end Annotator

import Annotator.Hook.Matcher

/-! Hooks do the same whatever older regions there are in the table, and leave those in front. -/

namespace Annotator

namespace RegionTable

/-- A table whose regions come behind older ones. -/
def behind (older : List Region) (table : RegionTable) : RegionTable :=
  -- The next number stays.
  { table with regions := older ++ table.regions }

/-- A table of which only the next number is left. -/
def bare (table : RegionTable) : RegionTable :=
  -- All regions are forgotten.
  { table with regions := [] }

/-- Every table is a bare one behind its own regions. -/
theorem behind_bare (table : RegionTable) : table.bare.behind table.regions = table := by
  -- The table without its regions holds nothing of its own behind the older ones.
  rw [behind, bare, List.append_nil]

/-- A region is added at the end, behind the older ones as well. -/
theorem insert_behind (older : List Region) (table : RegionTable) (region : Region) :
    (table.behind older).insert region = (table.insert region).behind older := by
  -- Both tables end with the region.
  simp only [insert, behind, List.append_assoc]

end RegionTable

namespace Desk

variable {older : List Region} {desk : Desk}

/-- A desk whose table comes behind older regions. -/
def behind (older : List Region) (desk : Desk) : Desk :=
  -- The reservation stays.
  { desk with table := desk.table.behind older }

/-- Reserving a number does not look at the older regions. -/
theorem reserve_behind :
    (desk.behind older).reserve = (desk.reserve.1, desk.reserve.2.behind older) := by
  -- The reservation and the next number are the same behind the older regions.
  obtain ⟨table, reserved⟩ := desk
  cases reserved <;> rfl

/-- Claiming a number does not look at the older regions. -/
theorem claim_behind :
    (desk.behind older).claim = (desk.claim.1, desk.claim.2.behind older) := by
  -- The reservation and the next number are the same behind the older regions.
  obtain ⟨table, reserved⟩ := desk
  cases reserved <;> rfl

/-- An answer to a creation, at a desk whose table comes behind older regions. -/
def madeBehind (older : List Region) (made : Except RegionError (RegionId × Desk)) :
    Except RegionError (RegionId × Desk) :=
  -- Errors say nothing of the table.
  made.map fun made => (made.1, made.2.behind older)

/-- A creation is settled behind older regions as it is without them. -/
theorem settle_behind (made : Except RegionError (RegionId × Desk)) :
    (desk.behind older).settle (madeBehind older made) =
      ((desk.settle made).1, (desk.settle made).2.behind older) := by
  -- A refusal leaves the desk, and a creation leaves what it was answered with.
  cases made <;> rfl

end Desk

namespace Scene

variable {older : List Region} {desk : Desk} {scene : Scene} {metadata : Metadata}

/-- A region is placed behind older ones as it is without them. -/
theorem place_behind (start stop : Position) :
    scene.place (desk.behind older) start stop metadata =
      Desk.madeBehind older (scene.place desk start stop metadata) := by
  -- The check looks at the metadata alone, and what is made comes last in either table.
  unfold place
  cases metadata.validate with
  | error error => rfl
  | ok checked =>
    dsimp only
    rw [Desk.claim_behind]
    simp only [Desk.behind, RegionTable.insert_behind]
    rfl

/-- A creation on a line does not look at the older regions. -/
theorem createOnLine_behind (start stop : Nat) :
    scene.createOnLine (desk.behind older) start stop metadata =
      Desk.madeBehind older (scene.createOnLine desk start stop metadata) := by
  -- The checks in front look at the line alone.
  unfold createOnLine
  cases scene.line with
  | none => rfl
  | some line =>
    dsimp only
    split
    · exact place_behind _ _
    · rfl

/-- A creation between positions does not look at the older regions. -/
theorem createAt_behind (start stop : Position) :
    scene.createAt (desk.behind older) start stop metadata =
      Desk.madeBehind older (scene.createAt desk start stop metadata) := by
  -- The checks in front look at the rows alone.
  unfold createAt
  split
  · rfl
  · split
    · rfl
    · split
      · exact place_behind start stop
      · rfl

end Scene

/-- A program reaches the same value with the same notes, and adds the same regions. -/
theorem Program.run_behind (older : List Region) {scene : Scene} {α : Type} (program : Program α)
    (desk : Desk) :
    program.run scene (desk.behind older) =
      { program.run scene desk with desk := (program.run scene desk).desk.behind older } := by
  -- Every step is answered as before, and leaves the desk as before behind the older regions.
  induction program generalizing desk with
  | done value => rfl
  | tell note next ih => simp only [run, ih]
  | reserve next ih => simp only [run, Desk.reserve_behind, ih]
  | create start stop metadata next ih =>
    simp only [run, Scene.createOnLine_behind, Desk.settle_behind, ih]
  | createAt start stop metadata next ih =>
    simp only [run, Scene.createAt_behind, Desk.settle_behind, ih]

/-- A hook does the same whatever older regions there are, and its own come behind them. -/
theorem Matcher.handle_behind (older : List Region) (matcher : Matcher) (scene : Scene)
    (table : RegionTable) {α : Type} (program : Program (Reply matcher.State α)) :
    matcher.handle scene (table.behind older) program =
      ((matcher.handle scene table program).1,
        (matcher.handle scene table program).2.behind older) := by
  -- The desk of the hook starts without a reservation in either case.
  have start : ({ table := table.behind older } : Desk) = Desk.behind older { table } := rfl
  unfold handle
  rw [start, program.run_behind older]
  rfl

end Annotator

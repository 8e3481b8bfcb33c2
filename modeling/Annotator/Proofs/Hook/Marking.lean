import Annotator.Proofs.Hook.Faultless

/-! At a fresh desk the first region that a hook asks for is made under the next number. -/

namespace Annotator

/-- The regions that a table holds behind those of an older one. -/
def RegionTable.since (old new : RegionTable) : List Region :=
  -- Hooks add regions at the end.
  new.regions.drop old.regions.length

/-- What was added at the end is what the table holds since. -/
theorem RegionTable.since_append {old new : RegionTable} {made : List Region}
    (added : new.regions = old.regions ++ made) : old.since new = made := by
  -- The older regions are dropped from the front.
  rw [since, added, List.drop_left]

/-- The table that a region is left in when it is made under the next number. -/
def Scene.mark (scene : Scene) (table : RegionTable) (start stop : Position)
    (metadata : Metadata) : RegionTable :=
  -- The number is used up.
  { nextId := table.nextId + 1
    regions := table.regions ++ [scene.drawn ⟨table.nextId⟩ start stop metadata] }

namespace Program

variable {scene : Scene} {line : LogicalLine} {first last : Nat} {α : Type}

/-- What is valid is made over a sound span of the line. -/
theorem run_create (current : scene.line = some line)
    (sound : Scene.spanSound line.text first last = true) {metadata : Metadata}
    (valid : metadata.validate = .ok ()) (next : Except RegionError RegionId → Program α)
    (table : RegionTable) :
    (create first last metadata next).run scene { table } =
      (next (.ok ⟨table.nextId⟩)).run scene
        { table := scene.mark table (line.position first) (line.position last) metadata } := by
  -- The span is sound and the metadata are valid, so the creation is accepted.
  have placed : scene.createOnLine { table } first last metadata =
      .ok (⟨table.nextId⟩,
        { table := scene.mark table (line.position first) (line.position last) metadata }) := by
    simp only [Scene.createOnLine, current, sound, if_true]
    exact Scene.place_eq_ok_iff.mpr ⟨valid, rfl, rfl⟩
  rw [run, placed]
  rfl

/-- What is valid is made between two positions of the output. -/
theorem run_createAt {start stop : Position} (begins : scene.holds start = true)
    (ends : scene.holdsEnd stop = true) (ordered : start ≤ stop) {metadata : Metadata}
    (valid : metadata.validate = .ok ()) (next : Except RegionError RegionId → Program α)
    (table : RegionTable) :
    (createAt start stop metadata next).run scene { table } =
      (next (.ok ⟨table.nextId⟩)).run scene { table := scene.mark table start stop metadata } := by
  -- Both ends are held and in order, so the creation is accepted.
  have placed : scene.createAt { table } start stop metadata =
      .ok (⟨table.nextId⟩, { table := scene.mark table start stop metadata }) := by
    simp only [Scene.createAt, begins, ends, ordered, Bool.not_true, Bool.false_eq_true, if_false,
      if_true]
    exact Scene.place_eq_ok_iff.mpr ⟨valid, rfl, rfl⟩
  rw [run, placed]
  rfl

variable {metadata : RegionId → Metadata}

/-- A region that is described with its number is made under that number. -/
theorem run_reserve_create (current : scene.line = some line)
    (sound : Scene.spanSound line.text first last = true) (table : RegionTable)
    (valid : (metadata ⟨table.nextId⟩).validate = .ok ())
    (next : RegionId → Except RegionError RegionId → Program α) :
    (reserve fun id => create first last (metadata id) (next id)).run scene { table } =
      (next ⟨table.nextId⟩ (.ok ⟨table.nextId⟩)).run scene
        { table := scene.mark table (line.position first) (line.position last)
            (metadata ⟨table.nextId⟩) } := by
  -- The reservation is what the creation claims.
  have placed : scene.createOnLine ⟨table.allocate.2, some ⟨table.nextId⟩⟩ first last
      (metadata ⟨table.nextId⟩) =
      .ok (⟨table.nextId⟩,
        { table := scene.mark table (line.position first) (line.position last)
            (metadata ⟨table.nextId⟩) }) := by
    simp only [Scene.createOnLine, current, sound, if_true]
    exact Scene.place_eq_ok_iff.mpr ⟨valid, rfl, rfl⟩
  show (create first last _ _).run scene ⟨table.allocate.2, some ⟨table.nextId⟩⟩ = _
  rw [run, placed]
  rfl

/-- If its description is not valid, only the number is lost. -/
theorem run_reserve_refused (current : scene.line = some line)
    (sound : Scene.spanSound line.text first last = true) (table : RegionTable)
    {error : ActionError} (invalid : (metadata ⟨table.nextId⟩).validate = .error error)
    (next : RegionId → Except RegionError RegionId → Program α) :
    (reserve fun id => create first last (metadata id) (next id)).run scene { table } =
      (next ⟨table.nextId⟩ (.error (.invalidAction error))).run scene
        ⟨table.allocate.2, some ⟨table.nextId⟩⟩ := by
  -- The check comes before the claim, so the reservation stands and the table is as it was.
  have refused : scene.createOnLine ⟨table.allocate.2, some ⟨table.nextId⟩⟩ first last
      (metadata ⟨table.nextId⟩) = .error (.invalidAction error) := by
    simp only [Scene.createOnLine, current, sound, if_true, Scene.place, invalid]
  show (create first last _ _).run scene ⟨table.allocate.2, some ⟨table.nextId⟩⟩ = _
  rw [run, refused]
  rfl

end Program

end Annotator

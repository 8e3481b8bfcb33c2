import Annotator.Proofs.Output.Positions
import Annotator.Proofs.Region.Numbers

/-!
The rows that a region covers are those that hold one of its bytes, as far as there are bytes in
them, and they are listed for every region that is present.
-/

namespace Annotator

namespace LogicalLine

/-- No offset is mapped behind the last row. -/
theorem positionFrom_row_le (number : Nat) (row : String) (rest : List String) (offset : Nat) :
    (positionFrom number row rest offset).row ≤ number + rest.length := by
  -- Induction on the rows behind the first, as at most all of them are passed.
  induction rest generalizing number row offset with
  | nil => exact Nat.le_refl _
  | cons next rest ih =>
    rw [positionFrom, List.length_cons]
    split
    · exact Nat.le_add_right _ _
    · have within := ih (number + 1) next (offset - Text.size row)
      omega

/-- A row with text begins at an offset of the joined rows. -/
theorem exists_positionFrom_start (number : Nat) (row : String) (rest : List String)
    {place : Nat} {text : String} (taken : (row :: rest)[place]? = some text)
    (written : text ≠ "") : ∃ base, positionFrom number row rest base = ⟨number + place, 0⟩ := by
  -- The texts of the rows in front of it lie in front of the offset.
  induction rest generalizing number row place with
  | nil =>
    cases place with
    | zero => exact ⟨0, rfl⟩
    | succ place => simp at taken
  | cons next rest ih =>
    cases place with
    | zero =>
      obtain rfl : row = text := by simpa using taken
      have filled : 0 < Text.size row :=
        Nat.pos_of_ne_zero (mt String.utf8ByteSize_eq_zero_iff.mp written)
      exact ⟨0, by rw [positionFrom, if_pos filled]; rfl⟩
    | succ place =>
      obtain ⟨base, mapped⟩ := ih (number + 1) next taken
      refine ⟨Text.size row + base, ?_⟩
      rw [positionFrom, if_neg (by omega), Nat.add_sub_cancel_left, mapped, Nat.add_right_comm,
        Nat.add_assoc]

/-- Offsets of a line are mapped to rows of the line. -/
theorem position_row_within (line : LogicalLine) (offset : Nat) :
    line.startRow ≤ (line.position offset).row ∧ (line.position offset).row ≤ line.endRow :=
  -- Rows are counted up from the first one, and no further than to the last.
  ⟨le_positionFrom_row _ _ _ _, positionFrom_row_le _ _ _ _⟩

/-- An offset that is mapped to an earlier position comes earlier. -/
theorem lt_of_position_precedes (line : LogicalLine) {first last : Nat}
    (precedes : (line.position first).Precedes (line.position last)) : first < last := by
  -- Were the offsets in the other order, so would be the positions.
  refine Nat.lt_of_not_le fun reversed => ?_
  have ordered : line.position last ≤ line.position first := line.position_mono reversed
  rcases precedes with rows | ⟨same, offsets⟩
  · rcases ordered with back | ⟨back, _⟩ <;> omega
  · rcases ordered with back | ⟨_, back⟩ <;> omega

end LogicalLine

namespace Region

/-- The last row that an ordered region covers. -/
def lastRow (region : Region) : Nat :=
  -- A row at whose very start the region ends is not reached unless the region begins in it.
  if region.start.row < region.stop.row ∧ region.stop.offset = 0 then region.stop.row - 1
  else region.stop.row

/-- A region that does not end before it begins covers the rows from its first to its last one. -/
theorem coversRow_iff {region : Region} (ordered : region.start ≤ region.stop) (row : Nat) :
    region.coversRow row = true ↔ region.start.row ≤ row ∧ row ≤ region.lastRow := by
  -- A region that stops at the very start of a row does not reach into it.
  have rows : region.start.row ≤ region.stop.row := by
    rcases ordered with before | ⟨same, _⟩ <;> omega
  simp only [coversRow, Bool.and_eq_true, Bool.or_eq_true, decide_eq_true_eq, beq_iff_eq, lastRow]
  split <;> omega

/-- The rows of a region that does not end before it begins start at its first row. -/
theorem start_le_lastRow {region : Region} (ordered : region.start ≤ region.stop) :
    region.start.row ≤ region.lastRow := by
  -- A region that stops at the start of a row began on an earlier one, or is empty.
  rcases ordered with before | ⟨same, _⟩ <;> rw [lastRow] <;> split <;> omega

section Drawn

variable {region : Region} {line : LogicalLine} {first last : Nat}

/-- A row of a line that has text is covered exactly if a byte of the region lies in it. -/
theorem coversRow_iff_exists_offset (starts : region.start = line.position first)
    (stops : region.stop = line.position last) (wide : first < last) {place : Nat}
    {text : String} (taken : line.rows[place]? = some text) (written : text ≠ "") :
    region.coversRow (line.startRow + place) = true ↔
      ∃ offset, first ≤ offset ∧ offset < last ∧
        (line.position offset).row = line.startRow + place := by
  -- What a region covers is told by its first and last row, and those by its two ends.
  have ordered : region.start ≤ region.stop := by
    rw [starts, stops]
    exact line.position_mono (Nat.le_of_lt wide)
  rw [coversRow_iff ordered, lastRow]
  constructor
  · rintro ⟨behind, reached⟩
    -- The first byte of the region or the first byte of the row lies in both.
    rcases Nat.lt_or_eq_of_le behind with later | here
    · obtain ⟨base, mapped⟩ :=
        LogicalLine.exists_positionFrom_start line.startRow line.first line.rest taken written
      have begins : line.position base = ⟨line.startRow + place, 0⟩ := mapped
      have after : first < base := by
        refine line.lt_of_position_precedes (.inl ?_)
        rw [← starts, begins]
        exact later
      have before : base < last := by
        refine line.lt_of_position_precedes ?_
        rw [begins, ← stops]
        show _ < _ ∨ _ = _ ∧ _ < _
        dsimp only
        split at reached <;> omega
      exact ⟨base, Nat.le_of_lt after, before, by rw [begins]⟩
    · exact ⟨first, Nat.le_refl _, wide, by rw [← starts, here]⟩
  · rintro ⟨offset, low, high, same⟩
    have opens : line.position first ≤ line.position offset := line.position_mono low
    have closes : (line.position offset).Precedes (line.position last) :=
      LogicalLine.positionFrom_strictMono _ _ _ high
    rw [← starts] at opens
    rw [← stops] at closes
    -- An end in the same row lies behind the offset, so it is not the start of that row.
    rcases opens with rows | ⟨rows, _⟩ <;> rcases closes with ends | ⟨ends, _⟩ <;>
      refine ⟨by omega, ?_⟩ <;> split <;> omega

/-- A region on a line covers no row outside the line. -/
theorem coversRow_outside (starts : region.start = line.position first)
    (stops : region.stop = line.position last) {row : Nat}
    (outside : row < line.startRow ∨ line.endRow < row) : region.coversRow row = false := by
  -- Both ends of the region lie on rows of its line.
  have begins := (line.position_row_within first).1
  have ends := (line.position_row_within last).2
  rw [← starts] at begins
  rw [← stops] at ends
  rcases outside with before | behind
  · have early : ¬region.start.row ≤ row := by omega
    simp [coversRow, early]
  · have late : ¬row ≤ region.stop.row := by omega
    simp [coversRow, late]

end Drawn

end Region

/-- What an event creates does not end before it begins. -/
theorem Scene.Creates.ordered {scene : Scene} {region : Region}
    (creates : scene.Creates region) : region.start ≤ region.stop := by
  -- A span on a line is checked by its offsets, and one between positions by itself.
  rcases creates.span with ⟨line, first, last, _, sound, starts, stops⟩ | ⟨_, _, ordered⟩
  · simp only [Scene.spanSound, Bool.and_eq_true, decide_eq_true_eq] at sound
    rw [starts, stops]
    exact line.position_mono sound.1.1.1
  · exact ordered

namespace Workplace

variable {place : Workplace} {region : Region}

/-- A region that is there after a creation was there before or was created by the event. -/
theorem created_or_mem (scene : Scene) {result : Except RegionError (RegionId × Desk)}
    (places : ∀ id next, result = .ok (id, next) → ∃ start stop metadata,
      scene.Spans start stop ∧ scene.place place.desk start stop metadata = .ok (id, next))
    (member : region ∈ (place.desk.settle result).2.table.regions) :
    region ∈ place.regions ∨ scene.Creates region := by
  -- A creation that is refused leaves the table, and an accepted one adds one region to it.
  cases result with
  | error error => exact .inl member
  | ok made =>
    obtain ⟨start, stop, metadata, spans, placed⟩ := places made.1 made.2 rfl
    obtain ⟨valid, _, left⟩ := Scene.place_eq_ok_iff.mp placed
    have listed : region ∈ made.2.table.regions := member
    rw [left] at listed
    rcases List.mem_append.mp listed with old | new
    · rw [(claim_spec place.desk).1] at old
      exact .inl old
    · rw [List.mem_singleton.mp new]
      exact .inr (Scene.creates_drawn valid spans made.1)

/-- A region that is there after a deed was there before or was created by an event. -/
theorem mem_perform (deed : Deed) (member : region ∈ (place.perform deed).2.regions) :
    region ∈ place.regions ∨ ∃ scene : Scene, scene.Creates region := by
  -- Only the two creations add to the table, and only inside an event.
  obtain ⟨scene, desk⟩ := place
  cases deed with
  | enter scene => exact .inl member
  | reserve =>
    cases scene with
    | none => exact .inl member
    | some scene =>
      have listed : region ∈ desk.reserve.2.table.regions := member
      rw [(reserve_spec desk).2.2.2.1] at listed
      exact .inl listed
  | create start stop metadata =>
    cases scene with
    | none => exact .inl member
    | some scene =>
      refine (created_or_mem scene (fun id next made => ?_) member).imp_right (.intro scene)
      obtain ⟨line, current, sound, placed⟩ := Scene.createOnLine_eq_ok made
      exact ⟨_, _, _, .inl ⟨line, start, stop, current, sound, rfl, rfl⟩, placed⟩
  | createAt start stop metadata =>
    cases scene with
    | none => exact .inl member
    | some scene =>
      refine (created_or_mem scene (fun id next made => ?_) member).imp_right (.intro scene)
      obtain ⟨startHeld, stopHeld, ordered, placed⟩ := Scene.createAt_eq_ok made
      exact ⟨_, _, _, .inr ⟨startHeld, stopHeld, ordered⟩, placed⟩
  | evict id => exact .inl (List.mem_of_mem_filter member)
  | evictInvocation id => exact .inl (List.mem_of_mem_filter member)

/-- Every region that is present was created by an event. -/
theorem exists_creates_of_mem_reached (deeds : List Deed)
    (member : region ∈ (reached deeds).regions) : ∃ scene : Scene, scene.Creates region := by
  -- The induction follows the deeds from the last one back.
  induction deeds using List.reverseRecOn with
  | nil => cases member
  | append_singleton deeds deed ih =>
    rw [reached, after_append] at member
    exact (mem_perform deed member).elim ih id

end Workplace

open Workplace in
/-- Which rows a region covers, and which regions are listed for a row. -/
theorem row_coverage_exact :
    -- A region over bytes of a line covers the rows of the line that hold one of those bytes.
    (∀ (scene : Scene) (line : LogicalLine) (desk next : Desk) (start stop : Nat)
      (metadata : Metadata) (id : RegionId), scene.line = some line → start < stop →
      scene.createOnLine desk start stop metadata = .ok (id, next) →
      ∃ region, region.id = id ∧ next.table.regions = desk.table.regions ++ [region] ∧
        (∀ place text, line.rows[place]? = some text → text ≠ "" →
          (region.coversRow (line.startRow + place) = true ↔
            ∃ offset, start ≤ offset ∧ offset < stop ∧
              (line.position offset).row = line.startRow + place)) ∧
        ∀ row, row < line.startRow ∨ line.endRow < row → region.coversRow row = false) ∧
    -- The rows of a region that is present follow each other from its first one on.
    (∀ deeds, ∀ region ∈ (reached deeds).regions, ∃ last, region.start.row ≤ last ∧
      ∀ row, region.coversRow row = true ↔ region.start.row ≤ row ∧ row ≤ last) ∧
    -- Each region of an invocation that covers a row is listed once, in the order of numbers.
    (∀ deeds invocation row,
      (∀ region, region ∈ (reached deeds).desk.table.onRow invocation row ↔
        region ∈ (reached deeds).regions ∧ region.invocation = invocation ∧
          region.coversRow row = true) ∧
      ((reached deeds).desk.table.onRow invocation row).Pairwise (·.id.number < ·.id.number)) := by
  -- The first part is about one creation, and the others about all that deeds can reach.
  refine ⟨?_, ?_, ?_⟩
  · intro scene line desk next start stop metadata id current wide made
    obtain ⟨found, same, _, placed⟩ := Scene.createOnLine_eq_ok made
    obtain rfl : line = found := Option.some.inj (current.symm.trans same)
    obtain ⟨_, _, rfl⟩ := Scene.place_eq_ok_iff.mp placed
    refine ⟨scene.drawn id (line.position start) (line.position stop) metadata, rfl, ?_, ?_, ?_⟩
    · exact congrArg (· ++ _) (claim_spec desk).1
    · exact fun place text taken written =>
        Region.coversRow_iff_exists_offset rfl rfl wide taken written
    · exact fun row outside => Region.coversRow_outside rfl rfl outside
  · intro deeds region member
    obtain ⟨scene, creates⟩ := exists_creates_of_mem_reached deeds member
    exact ⟨region.lastRow, Region.start_le_lastRow creates.ordered,
      Region.coversRow_iff creates.ordered⟩
  · intro deeds invocation row
    refine ⟨fun region => ?_, ?_⟩
    · simp only [RegionTable.onRow, RegionTable.forInvocation, List.mem_filter, beq_iff_eq,
        and_assoc]
      rfl
    · exact (ordered_reached deeds).ascending.sublist
        (List.filter_sublist.trans List.filter_sublist)

/-- A region that stops at a break of its line does not cover the row behind the break. -/
theorem row_coverage_exact_break :
    let line : LogicalLine := { startRow := 3, first := "ab", rest := ["", "cd"] }
    let scene : Scene := { (default : Scene) with line := some line }
    let region := scene.drawn ⟨1⟩ ⟨3, 0⟩ ⟨5, 0⟩ {}
    scene.createOnLine { table := {} } 0 2 {} =
        .ok (⟨1⟩, { table := { nextId := 2, regions := [region] } }) ∧
      region.coversRow 3 = true ∧ region.coversRow 5 = false := by
  -- The region ends where the empty row in the middle does, which is the start of the last one.
  intro line scene region
  have made : scene.createOnLine { table := {} } 0 2 {} =
      .ok (⟨1⟩, { table := { nextId := 2, regions := [region] } }) := by
    decide +kernel
  obtain ⟨found, _, listed, covers, _⟩ :=
    row_coverage_exact.1 scene line _ _ 0 2 {} _ rfl (by decide) made
  obtain rfl : region = found := by simpa using listed
  have first := (covers 0 "ab" rfl (by decide)).mpr ⟨0, by decide, by decide, by decide⟩
  have third : ¬region.coversRow 5 = true := by
    refine mt (covers 2 "cd" rfl (by decide)).mp ?_
    rintro ⟨offset, _, inside, row⟩
    -- Both bytes of the region lie in the first row.
    obtain rfl | rfl : offset = 0 ∨ offset = 1 := by omega
    · exact absurd row (by decide)
    · exact absurd row (by decide)
  exact ⟨made, first, Bool.eq_false_iff.mpr third⟩

end Annotator

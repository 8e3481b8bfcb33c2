import Annotator.Output.Buffer
import Annotator.Proofs.Text.Boundary
import Mathlib.Data.List.Induction

/-! Lines are made of received rows, and their offsets stand for positions within those rows. -/

namespace Annotator

/-- A position precedes another one when it comes earlier in the output. -/
def Position.Precedes (left right : Position) : Prop :=
  -- Within a row offsets decide.
  left.row < right.row ∨ left.row = right.row ∧ left.offset < right.offset

/-- Every row of a line was received under the number the line gives it. -/
def LogicalLine.ReceivedIn (line : LogicalLine) (rows : Array String) : Prop :=
  -- The rows of a line follow each other without a gap.
  ∀ place row, line.rows[place]? = some row → rows[line.startRow + place]? = some row

namespace LogicalLine

/-- The characters of a line are those of its rows, one row after the other. -/
theorem text_toList (line : LogicalLine) :
    line.text.toList = line.rows.flatMap String.toList := by
  -- The text is joined from the rows.
  simp [text]

/-- A position is never in front of the row from which it is counted. -/
theorem le_positionFrom_row (number : Nat) (row : String) (rest : List String) (offset : Nat) :
    number ≤ (positionFrom number row rest offset).row := by
  -- Induction on the rows behind the first, as the number of the row only goes up.
  induction rest generalizing number row offset with
  | nil => exact Nat.le_refl _
  | cons next rest ih =>
    rw [positionFrom]
    split
    · exact Nat.le_refl _
    · exact Nat.le_trans (Nat.le_succ number) (ih _ _ _)

/-- A boundary of the joined rows is a boundary of the row it is mapped to. -/
theorem positionFrom_boundary (number : Nat) (row : String) (rest : List String) {offset : Nat}
    (bounded : Text.isBoundary ((row :: rest).flatMap String.toList) offset = true) :
    ∃ place found, (row :: rest)[place]? = some found ∧
      (positionFrom number row rest offset).row = number + place ∧
      Text.isBoundaryOf found (positionFrom number row rest offset).offset = true := by
  -- The offset is used up row by row until it falls into one.
  induction rest generalizing number row offset with
  | nil => exact ⟨0, row, rfl, rfl, by simpa [positionFrom, Text.isBoundaryOf] using bounded⟩
  | cons next rest ih =>
    rw [List.flatMap_cons] at bounded
    rw [positionFrom]
    split
    · rename_i inside
      rw [Text.size_eq_byteLength] at inside
      exact ⟨0, row, rfl, rfl, Text.isBoundary_left bounded (Nat.le_of_lt inside)⟩
    · rename_i behind
      rw [Text.size_eq_byteLength] at behind ⊢
      have later := Text.isBoundary_right bounded (Nat.le_of_not_lt behind)
      obtain ⟨place, found, taken, same, within⟩ := ih (number + 1) next later
      exact ⟨place + 1, found, taken, by omega, within⟩

/-- A later offset is mapped to a position that comes later. -/
theorem positionFrom_strictMono (number : Nat) (row : String) (rest : List String)
    {first last : Nat} (ordered : first < last) :
    (positionFrom number row rest first).Precedes (positionFrom number row rest last) := by
  -- Induction on the rows: two offsets lie in the first one, on both sides of its end, or behind
  -- it.
  induction rest generalizing number row first last with
  | nil => exact .inr ⟨rfl, ordered⟩
  | cons next rest ih =>
    rw [positionFrom, positionFrom]
    split
    · split
      · exact .inr ⟨rfl, ordered⟩
      · -- Only the later offset reaches the rows behind this one.
        exact .inl (le_positionFrom_row (number + 1) next rest _)
    · split
      · omega
      · exact ih (number + 1) next (by omega)

/-- Positions keep the order of the offsets of the joined rows. -/
theorem positionFrom_mono (number : Nat) (row : String) (rest : List String) {first last : Nat}
    (ordered : first ≤ last) :
    positionFrom number row rest first ≤ positionFrom number row rest last := by
  -- An offset has one position, and a later offset has a later one.
  rcases Nat.eq_or_lt_of_le ordered with rfl | later
  · exact .inr ⟨rfl, Nat.le_refl _⟩
  · exact (positionFrom_strictMono number row rest later).imp_right
      fun same => ⟨same.1, Nat.le_of_lt same.2⟩

/-- A boundary of a received line is mapped to a boundary of a received row. -/
theorem position_received {line : LogicalLine} {rows : Array String}
    (received : line.ReceivedIn rows) {offset : Nat}
    (bounded : Text.isBoundaryOf line.text offset = true) :
    ∃ row, rows[(line.position offset).row]? = some row ∧
      Text.isBoundaryOf row (line.position offset).offset = true := by
  -- A boundary of the whole text is one of the row that it falls into.
  rw [Text.isBoundaryOf, text_toList] at bounded
  obtain ⟨place, row, taken, same, within⟩ :=
    positionFrom_boundary line.startRow line.first line.rest bounded
  exact ⟨row, by rw [position, same]; exact received place row taken, within⟩

/-- A later offset of a line is mapped to a later position. -/
theorem position_mono (line : LogicalLine) {first last : Nat} (ordered : first ≤ last) :
    line.position first ≤ line.position last :=
  -- The rows are counted from the first of the line.
  positionFrom_mono line.startRow line.first line.rest ordered

/-- Rows that arrive later do not disturb a received line. -/
theorem ReceivedIn.push {line : LogicalLine} {rows : Array String}
    (received : line.ReceivedIn rows) (row : String) : line.ReceivedIn (rows.push row) := by
  -- The rows that are there already stay at their places.
  intro place found taken
  have present := received place found taken
  obtain ⟨within, _⟩ := Array.getElem?_eq_some_iff.mp present
  rw [Array.getElem?_push, if_neg (by omega)]
  exact present

end LogicalLine

/-- A buffer counts the received rows, and its unfinished line ends with the last of them. -/
structure LineBuffer.InStep (buffer : LineBuffer) (rows : Array String) : Prop where
  /-- Every received row has been counted. -/
  seen : buffer.rowsSeen = rows.size
  /-- The rows of the unfinished line are the last ones received. -/
  pending : ∀ line, buffer.pending = some line →
    line.ReceivedIn rows ∧ line.endRow + 1 = rows.size

namespace LineBuffer

/-- Before any row has been received a buffer is in step. -/
theorem inStep_empty : ({} : LineBuffer).InStep #[] :=
  -- Nothing is seen and nothing is held.
  ⟨rfl, fun line held => by simp at held⟩

/-- The line that a row completes or continues consists of received rows and ends with it. -/
theorem InStep.extended {buffer : LineBuffer} {rows : Array String} (step : buffer.InStep rows)
    (row : String) : (buffer.extended row).ReceivedIn (rows.push row) ∧
      (buffer.extended row).endRow + 1 = (rows.push row).size := by
  -- The row is received under the next number, whether it begins a line or continues one.
  unfold LineBuffer.extended
  cases held : buffer.pending with
  | none =>
    -- The row begins a line under the next number.
    refine ⟨fun place found taken => ?_, by simp [LogicalLine.endRow, step.seen]⟩
    cases place with
    | zero =>
      cases taken
      simp [step.seen]
    | succ place => simp [LogicalLine.rows] at taken
  | some line =>
    obtain ⟨received, last⟩ := step.pending line held
    refine ⟨fun place found taken => ?_, ?_⟩
    · have split : (line.extend row).rows = line.rows ++ [row] := rfl
      rw [split, List.getElem?_append] at taken
      split at taken
      · exact received.push row place found taken
      · -- The row itself stands right behind the rows of the line.
        rename_i behind
        have count : line.rows.length = line.rest.length + 1 := rfl
        have within := (List.getElem?_eq_some_iff.mp taken).1
        rw [List.length_singleton] at within
        have here : place - line.rows.length = 0 := by omega
        have number : line.startRow + place = rows.size := by
          rw [← last, LogicalLine.endRow]
          omega
        rw [here] at taken
        cases taken
        show (rows.push row)[line.startRow + place]? = some row
        simp [number]
    · show line.startRow + (line.rest ++ [row]).length + 1 = (rows.push row).size
      rw [Array.size_push, ← last, LogicalLine.endRow, List.length_append, List.length_singleton]
      omega

/-- Pushing a row keeps a buffer in step, and a completed line ends with the row. -/
theorem InStep.push {buffer : LineBuffer} {rows : Array String} (step : buffer.InStep rows)
    (row : String) (wraps : Bool) :
    (buffer.push row wraps).2.InStep (rows.push row) ∧
      ∀ line, (buffer.push row wraps).1 = some line →
        line.ReceivedIn (rows.push row) ∧ line.endRow + 1 = (rows.push row).size := by
  -- The line that takes the row is either held back or given out, and in both cases it is received.
  have made := step.extended row
  cases wraps with
  | true =>
    refine ⟨⟨by simp [LineBuffer.push, step.seen], fun line held => ?_⟩, by simp [LineBuffer.push]⟩
    cases held
    exact made
  | false =>
    refine ⟨⟨by simp [LineBuffer.push, step.seen], by simp [LineBuffer.push]⟩, fun line held => ?_⟩
    cases held
    exact made

/-- The lines that rows complete, each row with its wrapping, and the buffer they leave. -/
def assemble (rows : List (String × Bool)) : List LogicalLine × LineBuffer :=
  -- Rows are pushed in order onto an empty buffer.
  rows.foldl (fun made row =>
    (made.1 ++ (made.2.push row.1 row.2).1.toList, (made.2.push row.1 row.2).2)) ([], {})

/-- One more row completes at most one more line. -/
theorem assemble_concat (rows : List (String × Bool)) (row : String) (wraps : Bool) :
    assemble (rows ++ [(row, wraps)]) =
      ((assemble rows).1 ++ ((assemble rows).2.push row wraps).1.toList,
        ((assemble rows).2.push row wraps).2) := by
  -- Rows are pushed from the left, so the last one is pushed to what the others have left.
  simp [assemble]

/-- Assembled lines consist of the rows they were assembled from, and the buffer is in step. -/
theorem assemble_inStep (rows : List (String × Bool)) :
    (assemble rows).2.InStep (rows.map (·.1)).toArray ∧
      ∀ line ∈ (assemble rows).1, line.ReceivedIn (rows.map (·.1)).toArray := by
  -- Induction on the rows from behind, as they arrive.
  induction rows using List.reverseRecOn with
  | nil => exact ⟨inStep_empty, fun line member => by simp [assemble] at member⟩
  | append_singleton rows last ih =>
    obtain ⟨row, wraps⟩ := last
    obtain ⟨step, received⟩ := ih
    -- The last row completes at most one line, and disturbs none of the earlier ones.
    have pushed := step.push row wraps
    have grown : ((rows ++ [(row, wraps)]).map (·.1)).toArray =
        ((rows.map (·.1)).toArray).push row := by simp
    rw [assemble_concat, grown]
    refine ⟨pushed.1, fun line member => ?_⟩
    rcases List.mem_append.mp member with old | new
    · exact (received line old).push row
    · exact (pushed.2 line (Option.mem_toList.mp new)).1

/-- The number of the row with which the next line begins. -/
def opening (buffer : LineBuffer) : Nat :=
  -- An unfinished line has begun already.
  (buffer.pending.map (·.startRow)).getD buffer.rowsSeen

/-- The line that is completed next begins with the opening row, and those behind it begin later. -/
theorem InStep.opening_push {buffer : LineBuffer} {rows : Array String}
    (step : buffer.InStep rows) (row : String) (wraps : Bool) :
    buffer.opening ≤ (buffer.push row wraps).2.opening ∧
      ∀ line, (buffer.push row wraps).1 = some line →
        line.startRow = buffer.opening ∧ line.startRow < (buffer.push row wraps).2.opening := by
  -- The line that takes the row was opened where the buffer says, and the next one opens behind it.
  have begun : (buffer.extended row).startRow = buffer.opening := by
    unfold LineBuffer.extended opening
    cases buffer.pending <;> rfl
  have reached : buffer.opening ≤ buffer.rowsSeen := by
    unfold opening
    cases held : buffer.pending with
    | none => exact Nat.le_refl _
    | some line =>
      have last := (step.pending line held).2
      rw [LogicalLine.endRow] at last
      show line.startRow ≤ buffer.rowsSeen
      rw [step.seen]
      omega
  cases wraps with
  | true => exact ⟨Nat.le_of_eq begun.symm, fun _ completed => nomatch completed⟩
  | false =>
    refine ⟨Nat.le_succ_of_le reached, fun line completed => ?_⟩
    cases completed
    exact ⟨begun, begun.symm ▸ Nat.lt_succ_of_le reached⟩

/-- The unfinished line of a buffer begins with the opening row. -/
theorem opening_flush {buffer : LineBuffer} {line : LogicalLine}
    (held : buffer.flush.1 = some line) : line.startRow = buffer.opening := by
  -- What is flushed is the pending line.
  have pending : buffer.pending = some line := held
  rw [opening, pending]
  rfl

/-- Assembled lines begin one after the other, all of them in front of the opening row. -/
theorem assemble_rising (rows : List (String × Bool)) :
    (assemble rows).1.Pairwise (·.startRow < ·.startRow) ∧
      ∀ line ∈ (assemble rows).1, line.startRow < (assemble rows).2.opening := by
  -- Induction on the rows from their end, as the last row completes at most one more line.
  induction rows using List.reverseRecOn with
  | nil => exact ⟨List.Pairwise.nil, fun line member => by simp [assemble] at member⟩
  | append_singleton rows last ih =>
    obtain ⟨row, wraps⟩ := last
    obtain ⟨rising, before⟩ := ih
    obtain ⟨later, completed⟩ := (assemble_inStep rows).1.opening_push row wraps
    rw [assemble_concat]
    dsimp only
    cases given : ((assemble rows).2.push row wraps).1 with
    | none =>
      -- No line is completed, and the next one does not open earlier.
      rw [Option.toList_none, List.append_nil]
      exact ⟨rising, fun line member => Nat.lt_of_lt_of_le (before line member) later⟩
    | some line =>
      -- The completed line starts where the buffer was open, behind all the others.
      obtain ⟨begun, ended⟩ := completed line given
      refine ⟨List.pairwise_append.mpr ⟨rising, List.pairwise_singleton _ _, ?_⟩, ?_⟩
      · intro earlier member other own
        rw [List.mem_singleton.mp own, begun]
        exact before earlier member
      · intro other member
        rcases List.mem_append.mp member with earlier | own
        · exact Nat.lt_of_lt_of_le (before other earlier) later
        · rw [List.mem_singleton.mp own]
          exact ended

end LineBuffer

end Annotator

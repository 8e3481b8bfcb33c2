import Annotator.Proofs.Output.Assembly

/-!
A terminal may cut the same logical lines into rows in many ways. Each way lays the lines out over
its own rows, and all of them have the same lines in the same order.
-/

namespace Annotator

namespace LogicalLine

/-- A byte of a line does not lie behind its last row. -/
theorem position_row_le (line : LogicalLine) (offset : Nat) :
    (line.position offset).row ≤ line.endRow := by
  -- The offset has passed no more rows than there are breaks.
  obtain ⟨_, -, -, mapped⟩ := positionFrom_eq_break line.startRow 0 line.first line.rest offset
  have passed :
      ((breaksFrom 0 line.first line.rest).takeWhile (· ≤ 0 + offset)).length ≤
        (breaksFrom 0 line.first line.rest).length :=
    (List.takeWhile_prefix _).length_le
  rw [length_breaksFrom] at passed
  rw [position, mapped, endRow]
  exact Nat.add_le_add_left passed line.startRow

/-- A line among consecutive lines is followed by rows exactly if it is followed by a line. -/
theorem Consecutive.followed_iff {start stop place : Nat} {lines : List LogicalLine}
    {line : LogicalLine} (consecutive : Consecutive start lines stop)
    (found : lines[place]? = some line) : line.endRow + 1 < stop ↔ place + 1 < lines.length := by
  -- Induction on the lines up to the one that is meant.
  induction lines generalizing start place with
  | nil => simp at found
  | cons head lines ih =>
    obtain ⟨-, behind⟩ := consecutive
    cases place with
    | succ place =>
      have later := ih behind (by simpa using found)
      simpa using later
    | zero =>
      obtain rfl : head = line := by simpa using found
      cases lines with
      | nil =>
        have ends : head.endRow + 1 = stop := behind
        simp [ends]
      | cons next lines =>
        -- The next line takes at least one row.
        obtain ⟨first, beyond⟩ := behind
        have reached := beyond.le
        rw [endRow] at reached
        simp only [List.length_cons]
        omega

/-- The last row of a line among consecutive lines is one of theirs. -/
theorem Consecutive.endRow_lt {start stop place : Nat} {lines : List LogicalLine}
    {line : LogicalLine} (consecutive : Consecutive start lines stop)
    (found : lines[place]? = some line) : line.endRow < stop := by
  -- Induction on the lines up to the place, as each line ends in front of the next.
  induction lines generalizing start place with
  | nil => simp at found
  | cons head lines ih =>
    obtain ⟨-, behind⟩ := consecutive
    cases place with
    | succ place => exact ih behind (by simpa using found)
    | zero =>
      obtain rfl : head = line := by simpa using found
      exact behind.le

end LogicalLine

/-- The pieces that a logical line is cut into, one for each row that it takes. -/
structure Cut where
  /-- The piece on its first row. -/
  first : String
  /-- The pieces on the rows that it continues on. -/
  rest : List String := []
  deriving DecidableEq, Repr, Inhabited

namespace Cut

/-- The text of a line that is cut joins the pieces. -/
def text (cut : Cut) : String :=
  -- Pieces may be empty.
  String.join (cut.first :: cut.rest)

/-- The rows of one line, where the last row may be marked as wrapping too. -/
def rowsFrom (wraps : Bool) (piece : String) : List String → List (String × Bool)
  -- Every other row wraps into the next one.
  | [] => [(piece, wraps)]
  | next :: rest => (piece, true) :: rowsFrom wraps next rest

/-- The rows of several lines, where the very last row may be marked as wrapping too. -/
def rows (wraps : Bool) : List Cut → List (String × Bool)
  -- The last row of any other line does not wrap.
  | [] => []
  | [cut] => rowsFrom wraps cut.first cut.rest
  | cut :: next :: cuts => rowsFrom false cut.first cut.rest ++ rows wraps (next :: cuts)

/-- The line that is cut, when its first row has a given number. -/
def line (cut : Cut) (start : Nat) : LogicalLine :=
  -- Each piece is one row.
  { startRow := start, first := cut.first, rest := cut.rest }

/-- The lines that are cut, when the first row of the first one has a given number. -/
def lines (start : Nat) : List Cut → List LogicalLine
  -- Each line begins behind the last row of the line before it.
  | [] => []
  | cut :: cuts => cut.line start :: lines ((cut.line start).endRow + 1) cuts

/-- Cutting a line does not change its text. -/
theorem line_text (cut : Cut) (start : Nat) : (cut.line start).text = cut.text :=
  -- Both texts are the rows put together.
  (cut.line start).text_eq_join

/-- Cutting lines does not change their texts. -/
theorem lines_text (start : Nat) (cuts : List Cut) :
    (lines start cuts).map (·.text) = cuts.map text := by
  -- Induction on the cuts, since where a line starts does not show in its text.
  induction cuts generalizing start with
  | nil => rfl
  | cons cut cuts ih => rw [lines, List.map_cons, List.map_cons, line_text, ih]

/-- The rows of a line are assembled to it, together with the rows received of it before. -/
theorem lines_rowsFrom (buffer : LineBuffer) (wraps : Bool) (piece : String) (rest : List String)
    (later : List (String × Bool)) (closed : wraps = true → later = []) :
    buffer.lines (rowsFrom wraps piece rest ++ later) =
      { buffer.extended piece with rest := (buffer.extended piece).rest ++ rest } ::
        LineBuffer.lines { rowsSeen := buffer.rowsSeen + rest.length + 1 } later := by
  -- Each row that wraps only makes the unfinished line longer.
  induction rest generalizing buffer piece with
  | nil =>
    cases wraps with
    | true => simp [rowsFrom, LineBuffer.lines, LineBuffer.push, LineBuffer.flush, closed rfl]
    | false => simp [rowsFrom, LineBuffer.lines, LineBuffer.push]
  | cons next rest ih =>
    simp only [rowsFrom, List.cons_append, LineBuffer.lines, LineBuffer.push, if_true, ih]
    simp [LineBuffer.extended, LogicalLine.extend, Nat.add_comm, Nat.add_left_comm]

/-- The rows that lines are cut into are assembled to these lines again. -/
theorem lines_rows (start : Nat) (wraps : Bool) (cuts : List Cut) :
    LineBuffer.lines { rowsSeen := start } (rows wraps cuts) = lines start cuts := by
  -- Induction on the cuts, as the buffer holds nothing back where a line is complete.
  induction cuts generalizing start with
  | nil => rfl
  | cons cut cuts ih =>
    cases cuts with
    | nil =>
      -- The last line is pending if its last row wraps, and then counts all the same.
      have single := lines_rowsFrom { rowsSeen := start } wraps cut.first cut.rest [] fun _ => rfl
      rw [List.append_nil] at single
      rw [rows, single]
      rfl
    | cons next cuts =>
      rw [rows, lines_rowsFrom _ _ _ _ _ (by simp), ih]
      rfl

/-- A line takes one row for each of its pieces. -/
theorem length_rowsFrom (wraps : Bool) (piece : String) (rest : List String) :
    (rowsFrom wraps piece rest).length = rest.length + 1 := by
  -- Induction on the pieces behind the first.
  induction rest generalizing piece with
  | nil => rfl
  | cons next rest ih => simp [rowsFrom, ih]

/-- The rows of the first line are followed by those of the others. -/
theorem rows_cons (cut : Cut) (cuts : List Cut) :
    rows false (cut :: cuts) = rowsFrom false cut.first cut.rest ++ rows false cuts := by
  -- Only the last line of all has its last row marked.
  cases cuts with
  | nil => simp [rows]
  | cons next cuts => rfl

/-- Only the mark of the very last row is open. -/
theorem rows_last {cuts : List Cut} (present : cuts ≠ []) :
    ∃ front piece, ∀ wraps, rows wraps cuts = front ++ [(piece, wraps)] := by
  -- Induction on the cuts for the last of them, and on its pieces for the last row.
  have single (piece : String) (rest : List String) :
      ∃ front last, ∀ wraps, rowsFrom wraps piece rest = front ++ [(last, wraps)] := by
    induction rest generalizing piece with
    | nil => exact ⟨[], piece, fun _ => rfl⟩
    | cons next rest ih =>
      obtain ⟨front, last, split⟩ := ih next
      exact ⟨(piece, true) :: front, last, fun wraps => by rw [rowsFrom, split]; rfl⟩
  induction cuts with
  | nil => exact absurd rfl present
  | cons cut cuts ih =>
    cases cuts with
    | nil => exact single cut.first cut.rest
    | cons next cuts =>
      obtain ⟨front, last, split⟩ := ih (by simp)
      refine ⟨rowsFrom false cut.first cut.rest ++ front, last, fun wraps => ?_⟩
      rw [rows, split, List.append_assoc]

/-- Marking the very last row does not change the number of rows. -/
theorem length_rows (wraps : Bool) (cuts : List Cut) :
    (rows wraps cuts).length = (rows false cuts).length := by
  -- Only the mark of the last row differs.
  cases cuts with
  | nil => rfl
  | cons cut cuts =>
    obtain ⟨front, piece, split⟩ := rows_last (List.cons_ne_nil cut cuts)
    rw [split, split, List.length_append, List.length_append]
    rfl

/-- The lines that are cut follow each other without a gap over all rows. -/
theorem lines_consecutive (start : Nat) (cuts : List Cut) :
    LogicalLine.Consecutive start (lines start cuts) (start + (rows false cuts).length) := by
  -- Induction on the cuts, as each line takes as many rows as it has pieces.
  induction cuts generalizing start with
  | nil => rfl
  | cons cut cuts ih =>
    have taken : start + (rows false (cut :: cuts)).length =
        (cut.line start).endRow + 1 + (rows false cuts).length := by
      rw [rows_cons, List.length_append, length_rowsFrom]
      show _ = start + cut.rest.length + 1 + _
      omega
    rw [taken]
    exact ⟨rfl, ih _⟩

/-- From the first row on, the lines that are cut cover all rows. -/
theorem lines_cover (cuts : List Cut) :
    LogicalLine.Consecutive 0 (lines 0 cuts) (rows false cuts).length := by
  -- Counting starts with the first row.
  have consecutive := lines_consecutive 0 cuts
  rwa [Nat.zero_add] at consecutive

end Cut

/-- Two ways of cutting the same logical lines. -/
structure Rewrapping where
  /-- The lines as they are cut in one way. -/
  cuts : List Cut
  /-- The lines as they are cut in the other way. -/
  others : List Cut
  /-- The texts of the lines are the same. -/
  same : cuts.map Cut.text = others.map Cut.text

namespace Rewrapping

/-- The number of rows that the lines take in one way. -/
def rowCount (wrapping : Rewrapping) : Nat :=
  -- It does not matter how the very last row is marked.
  (Cut.rows false wrapping.cuts).length

/-- The number of rows that the lines take in the other way. -/
def otherRowCount (wrapping : Rewrapping) : Nat :=
  -- It does not matter how the very last row is marked.
  (Cut.rows false wrapping.others).length

/-- Two lines are one logical line in either way of cutting it. -/
def Pairs (wrapping : Rewrapping) (line other : LogicalLine) : Prop :=
  -- It has the same place among all lines.
  ∃ place : Nat, (Cut.lines 0 wrapping.cuts)[place]? = some line ∧
    (Cut.lines 0 wrapping.others)[place]? = some other

variable {wrapping : Rewrapping} {line other : LogicalLine}

/-- The lines have the same texts in either way. -/
theorem texts (wrapping : Rewrapping) : (Cut.lines 0 wrapping.cuts).map (·.text) =
    (Cut.lines 0 wrapping.others).map (·.text) := by
  -- The lines have the texts of their cuts, which are the same.
  rw [Cut.lines_text, Cut.lines_text, wrapping.same]

/-- The two ways have equally many lines, one by one. -/
theorem forall₂_pairs (wrapping : Rewrapping) :
    (Cut.lines 0 wrapping.cuts).Forall₂ wrapping.Pairs (Cut.lines 0 wrapping.others) := by
  -- There are equally many lines, and those at the same place are paired.
  have lengths : (Cut.lines 0 wrapping.cuts).length = (Cut.lines 0 wrapping.others).length := by
    simpa using congrArg List.length wrapping.texts
  refine List.forall₂_iff_get.mpr ⟨lengths, fun place first second => ⟨place, ?_, ?_⟩⟩
  · exact List.getElem?_eq_getElem first
  · exact List.getElem?_eq_getElem second

/-- A logical line has the same text in either way. -/
theorem Pairs.text (pairs : wrapping.Pairs line other) : line.text = other.text := by
  -- The lines stand at the same place of equal lists of texts.
  obtain ⟨place, found, otherFound⟩ := pairs
  have both := congrArg (·[place]?) wrapping.texts
  simpa [found, otherFound] using both

/-- A logical line has the same length in either way. -/
theorem Pairs.length (pairs : wrapping.Pairs line other) : line.length = other.length := by
  -- The length of a line is the size of its text.
  rw [line.length_eq_size, other.length_eq_size, pairs.text]

/-- The bytes of a logical line lie on rows that the lines take, in either way. -/
theorem Pairs.position_row_lt (pairs : wrapping.Pairs line other) (offset : Nat) :
    (line.position offset).row < wrapping.rowCount ∧
      (other.position offset).row < wrapping.otherRowCount := by
  -- A position in a line is in one of its rows, and the line ends among the rows of the output.
  obtain ⟨place, found, otherFound⟩ := pairs
  have inside := (Cut.lines_cover wrapping.cuts).endRow_lt found
  have otherInside := (Cut.lines_cover wrapping.others).endRow_lt otherFound
  exact ⟨Nat.lt_of_le_of_lt (line.position_row_le offset) inside,
    Nat.lt_of_le_of_lt (other.position_row_le offset) otherInside⟩

/-- A logical line is followed by rows in both ways or in neither. -/
theorem Pairs.followed_iff (pairs : wrapping.Pairs line other) :
    line.endRow + 1 < wrapping.rowCount ↔ other.endRow + 1 < wrapping.otherRowCount := by
  -- Both lines stand at one place among as many lines.
  obtain ⟨place, found, otherFound⟩ := pairs
  -- Whether a line is the last one does not depend on the rows that it takes.
  rw [rowCount, otherRowCount, (Cut.lines_cover wrapping.cuts).followed_iff found,
    (Cut.lines_cover wrapping.others).followed_iff otherFound, wrapping.forall₂_pairs.length_eq]

end Rewrapping

end Annotator

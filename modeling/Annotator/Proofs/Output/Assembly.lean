import Annotator.Proofs.Output.Positions
import Mathlib.Data.List.Infix

/-! Assembling lines loses no row, and the positions in a line lead back to the rows it joins. -/

namespace Annotator

/-- What a line buffer is given. -/
inductive Feed where
  /-- The next row arrives, with the mark whether it wraps. -/
  | row (text : String) (wraps : Bool)
  /-- The unfinished line is to be completed as it stands. -/
  | flush
  deriving DecidableEq, Repr

/-- The row that a feed brings. -/
def Feed.text? : Feed → Option String
  -- A flush brings none.
  | .row text _ => some text
  | .flush => none

namespace LogicalLine

/-- The numbers of the rows of a line. -/
def numbers (line : LogicalLine) : List Nat :=
  -- Both the first and the last row are included.
  List.range' line.startRow (line.endRow + 1 - line.startRow)

/-- Lines follow each other without a gap from one row number up to another. -/
def Consecutive (start : Nat) : List LogicalLine → Nat → Prop
  -- A line begins behind the last row of the line before it.
  | [], stop => start = stop
  | line :: lines, stop => line.startRow = start ∧ Consecutive (line.endRow + 1) lines stop

/-- Consecutive lines can be cut anywhere. -/
theorem consecutive_append {start stop : Nat} {left right : List LogicalLine} :
    Consecutive start (left ++ right) stop ↔
      ∃ middle, Consecutive start left middle ∧ Consecutive middle right stop := by
  -- Induction on the lines in front.
  induction left generalizing start with
  | nil => simp [Consecutive]
  | cons line lines ih => simp [Consecutive, ih, and_assoc]

/-- Consecutive lines do not end in front of their start. -/
theorem Consecutive.le {start stop : Nat} {lines : List LogicalLine}
    (consecutive : Consecutive start lines stop) : start ≤ stop := by
  -- Each line takes one row at least.
  induction lines generalizing start with
  | nil => exact Nat.le_of_eq consecutive
  | cons line lines ih =>
    obtain ⟨first, behind⟩ := consecutive
    have later := ih behind
    rw [endRow] at later
    omega

/-- The rows of consecutive lines are numbered from their start without a gap. -/
theorem Consecutive.numbers_eq {start stop : Nat} {lines : List LogicalLine}
    (consecutive : Consecutive start lines stop) :
    lines.flatMap numbers = List.range' start (stop - start) := by
  -- Induction on the lines: each has the rows from where the one before it ended.
  induction lines generalizing start with
  | nil =>
    have same : start = stop := consecutive
    simp [same]
  | cons line lines ih =>
    obtain ⟨first, behind⟩ := consecutive
    have later := behind.le
    have ordered : start ≤ line.endRow := by rw [endRow]; omega
    rw [List.flatMap_cons, ih behind, numbers, first]
    -- The numbers of the first line end where those of the others begin.
    have joined := @List.range'_append_1 start (line.endRow + 1 - start) (stop - (line.endRow + 1))
    have reached : start + (line.endRow + 1 - start) = line.endRow + 1 := by omega
    have total : line.endRow + 1 - start + (stop - (line.endRow + 1)) = stop - start := by omega
    rw [reached, total] at joined
    exact joined

/-- A line among consecutive lines holds the rows at its numbers. -/
theorem Consecutive.rows_eq {start stop : Nat} {lines : List LogicalLine} {line : LogicalLine}
    (consecutive : Consecutive start lines stop) (member : line ∈ lines) :
    start ≤ line.startRow ∧ line.rows =
      ((lines.flatMap rows).drop (line.startRow - start)).take
        (line.endRow + 1 - line.startRow) := by
  -- Induction on the lines, counting the rows from the start of the first.
  induction lines generalizing start with
  | nil => simp at member
  | cons head lines ih =>
    obtain ⟨first, behind⟩ := consecutive
    have count (line : LogicalLine) : line.rows.length = line.endRow + 1 - line.startRow := by
      rw [rows, List.length_cons, endRow]
      omega
    rw [List.flatMap_cons]
    rcases List.mem_cons.mp member with rfl | later
    · refine ⟨by omega, ?_⟩
      rw [first, Nat.sub_self, List.drop_zero, ← first, ← count line, List.take_left]
    · obtain ⟨ordered, slice⟩ := ih behind later
      have above : head.startRow ≤ head.endRow := by rw [endRow]; omega
      refine ⟨by omega, ?_⟩
      -- The rows of the first line are passed over.
      have passed : line.startRow - start =
          head.rows.length + (line.startRow - (head.endRow + 1)) := by
        rw [count head]
        omega
      rw [passed, ← List.drop_drop, List.drop_left, slice]

end LogicalLine

/-- A line joins some of the given rows, and its positions lead back to them. -/
structure LogicalLine.Joins (line : LogicalLine) (texts : List String) : Prop where
  /-- The rows of the line are those between its first and its last row. -/
  rows : line.rows = (texts.drop line.startRow).take (line.endRow + 1 - line.startRow)
  /-- The last row is not in front of the first one. -/
  ordered : line.startRow ≤ line.endRow
  /-- The text of the line is made of its rows and nothing else. -/
  text : line.text = String.join line.rows
  /-- There is one break for each continuation row. -/
  breaks_length : line.breaks.length = line.endRow - line.startRow
  /-- Breaks are listed in order. -/
  breaks_sorted : line.breaks.Pairwise (· ≤ ·)
  /-- A continuation row begins behind all rows of the line in front of it. -/
  breaks_sums : ∀ place < line.endRow - line.startRow,
    line.breaks[place]? = some ((line.rows.take (place + 1)).map Text.size).sum
  /-- A later offset has a later position. -/
  position_strict : ∀ first last, first < last → (line.position first).Precedes (line.position last)
  /-- An offset is counted from the last break that is not behind it. -/
  position_base : ∀ offset,
    let count := (line.breaks.takeWhile (· ≤ offset)).length
    ∃ base, (0 :: line.breaks)[count]? = some base ∧ base ≤ offset ∧
      line.position offset = ⟨line.startRow + count, offset - base⟩
  /-- A byte of the line is found again in the row that its offset is mapped to. -/
  position_byte : ∀ offset < line.length, ∃ row,
    texts[(line.position offset).row]? = some row ∧
      (line.position offset).row ∈ line.numbers ∧ (line.position offset).offset < Text.size row ∧
      (Text.bytes row)[(line.position offset).offset]? = (Text.bytes line.text)[offset]?
  /-- A character boundary of the line is one of the row that it is mapped to. -/
  position_boundary : ∀ offset, Text.isBoundaryOf line.text offset = true →
    ∃ row, texts[(line.position offset).row]? = some row ∧
      Text.isBoundaryOf row (line.position offset).offset = true
  /-- The end of the line is the end of its last row. -/
  position_end : ∃ row, texts[line.endRow]? = some row ∧
    line.position line.length = ⟨line.endRow, Text.size row⟩

namespace LogicalLine

/-- The text of a line is made of its rows and nothing else. -/
theorem text_eq_join (line : LogicalLine) : line.text = String.join line.rows := by
  -- Both texts consist of the characters of the rows.
  rw [← String.toList_inj, text_toList]
  simp [List.flatMap_def]

/-- A line that holds the rows at its numbers joins them. -/
theorem joins_of_rows {line : LogicalLine} {texts : List String}
    (slice : line.rows = (texts.drop line.startRow).take (line.endRow + 1 - line.startRow)) :
    line.Joins texts := by
  -- Every condition is one about the rows of the line, and those are a slice of all rows.
  have count : line.endRow - line.startRow = line.rest.length := by rw [endRow]; omega
  -- The rows of the line are found at their numbers among all rows.
  have found {place : Nat} {row : String} (taken : line.rows[place]? = some row) :
      texts[line.startRow + place]? = some row := by
    have within := (List.getElem?_eq_some_iff.mp taken).1
    have size : line.rows.length = line.rest.length + 1 := rfl
    have inside : place < line.endRow + 1 - line.startRow := by rw [endRow]; omega
    rw [slice, List.getElem?_take, if_pos inside, List.getElem?_drop] at taken
    exact taken
  have received : line.ReceivedIn texts.toArray := by
    intro place row taken
    rw [List.getElem?_toArray]
    exact found taken
  have encoded : Text.bytes line.text = line.rows.flatMap Text.bytes := Text.bytes_flatMap line.rows
  exact
    { rows := slice
      ordered := Nat.le_add_right line.startRow line.rest.length
      text := line.text_eq_join
      breaks_length := by rw [count, breaks, length_breaksFrom]
      breaks_sorted := breaksFrom_sorted 0 line.first line.rest
      breaks_sums := by
        intro place within
        rw [count] at within
        rw [breaks, getElem?_breaksFrom 0 line.first line.rest within, Nat.zero_add]
        rfl
      position_strict := fun first last ordered =>
        positionFrom_strictMono line.startRow line.first line.rest ordered
      position_base := by
        intro offset
        have counted := positionFrom_eq_break line.startRow 0 line.first line.rest offset
        rw [Nat.zero_add] at counted
        exact counted
      position_byte := by
        intro offset within
        have covered : offset < (line.rows.flatMap Text.bytes).length := by
          rw [← encoded, Text.length_bytes, ← length_eq_size]
          exact within
        obtain ⟨place, row, taken, same, inside, byte⟩ :=
          positionFrom_byte line.startRow line.first line.rest covered
        have bounded : place < line.rest.length + 1 := (List.getElem?_eq_some_iff.mp taken).1
        refine ⟨row, by rw [position, same]; exact found taken, ?_, inside, ?_⟩
        · rw [position, same, numbers, List.mem_range'_1, endRow]
          omega
        · rw [encoded]
          exact byte
      position_boundary := by
        intro offset bounded
        obtain ⟨row, present, boundary⟩ := position_received received bounded
        exact ⟨row, by rwa [List.getElem?_toArray] at present, boundary⟩
      position_end := by
        obtain ⟨row, taken, mapped⟩ := positionFrom_end line.startRow line.first line.rest
        exact ⟨row, found taken, mapped⟩ }

/-- Different offsets of a line have different positions. -/
theorem Joins.position_injective {line : LogicalLine} {texts : List String}
    (joins : line.Joins texts) : Function.Injective line.position := by
  -- Of two offsets one comes first, and so does its position.
  intro left right same
  by_contra different
  -- Whichever offset comes first, its position would precede itself.
  rcases Nat.lt_or_gt_of_ne different with before | behind
  · have precedes := joins.position_strict left right before
    rw [same, Position.Precedes] at precedes
    omega
  · have precedes := joins.position_strict right left behind
    rw [same, Position.Precedes] at precedes
    omega

end LogicalLine

namespace LineBuffer

/-- What a buffer makes of one feed. -/
def feed (buffer : LineBuffer) : Feed → Option LogicalLine × LineBuffer
  -- Either way at most one line is completed.
  | .row text wraps => buffer.push text wraps
  | .flush => buffer.flush

/-- The lines that feeds complete, and the buffer they leave. -/
def fed (feeds : List Feed) : List LogicalLine × LineBuffer :=
  -- The first feed is given to an empty buffer.
  feeds.foldl (fun made feed =>
    (made.1 ++ (made.2.feed feed).1.toList, (made.2.feed feed).2)) ([], {})

/-- One more feed completes at most one more line. -/
theorem fed_concat (feeds : List Feed) (feed : Feed) :
    fed (feeds ++ [feed]) =
      ((fed feeds).1 ++ ((fed feeds).2.feed feed).1.toList, ((fed feeds).2.feed feed).2) := by
  -- Feeding goes from the left, so the last piece is fed to what the others have left.
  simp [fed]

/-- Completed lines and the unfinished one cover all rows so far, one after the other. -/
structure Covers (made : List LogicalLine × LineBuffer) (texts : List String) : Prop where
  /-- Every row has been counted. -/
  seen : made.2.rowsSeen = texts.length
  /-- The lines follow each other without a gap. -/
  consecutive : LogicalLine.Consecutive 0 (made.1 ++ made.2.pending.toList) made.2.rowsSeen
  /-- The rows of the lines are the given ones, in order. -/
  rows : (made.1 ++ made.2.pending.toList).flatMap LogicalLine.rows = texts

/-- The line that a row completes or continues extends the cover by the row. -/
theorem Covers.extended {made : List LogicalLine × LineBuffer} {texts : List String}
    (covers : Covers made texts) (row : String) :
    LogicalLine.Consecutive 0 (made.1 ++ [made.2.extended row]) (made.2.rowsSeen + 1) ∧
      (made.1 ++ [made.2.extended row]).flatMap LogicalLine.rows = texts ++ [row] := by
  -- The rows of the unfinished line are the last ones that were received.
  obtain ⟨lines, buffer⟩ := made
  obtain ⟨middle, complete, unfinished⟩ := LogicalLine.consecutive_append.mp covers.consecutive
  have joined := covers.rows
  unfold LineBuffer.extended
  cases held : buffer.pending with
  | none =>
    -- The row begins a line of its own.
    simp only [held, Option.toList_none, List.append_nil] at unfinished joined
    have reached : middle = buffer.rowsSeen := unfinished
    refine ⟨LogicalLine.consecutive_append.mpr ⟨middle, complete, reached.symm, ?_⟩, ?_⟩
    · simp [LogicalLine.Consecutive, LogicalLine.endRow]
    · simp [joined, LogicalLine.rows]
  | some line =>
    simp only [held, Option.toList_some] at unfinished joined
    obtain ⟨first, last⟩ := unfinished
    have reached : line.endRow + 1 = buffer.rowsSeen := last
    refine ⟨LogicalLine.consecutive_append.mpr ⟨middle, complete, first, ?_⟩, ?_⟩
    · show line.startRow + (line.rest ++ [row]).length + 1 = buffer.rowsSeen + 1
      rw [← reached, LogicalLine.endRow, List.length_append, List.length_singleton]
      omega
    · rw [← joined]
      simp [LogicalLine.rows, LogicalLine.extend]

/-- Whatever a buffer is fed, its lines go on covering all rows. -/
theorem Covers.feed {made : List LogicalLine × LineBuffer} {texts : List String}
    (covers : Covers made texts) (feed : Feed) :
    Covers (made.1 ++ (made.2.feed feed).1.toList, (made.2.feed feed).2)
      (texts ++ feed.text?.toList) := by
  -- A flush hands the unfinished line over, and a row extends it before it may be handed over.
  cases feed with
  | flush =>
    -- The unfinished line only changes sides.
    refine ⟨?_, ?_, ?_⟩
    · simpa [LineBuffer.feed, flush, Feed.text?] using covers.seen
    · simpa [LineBuffer.feed, flush] using covers.consecutive
    · simpa [LineBuffer.feed, flush, Feed.text?] using covers.rows
  | row text wraps =>
    obtain ⟨consecutive, rows⟩ := covers.extended text
    have seen := covers.seen
    cases wraps with
    | true =>
      refine ⟨?_, ?_, ?_⟩
      · simpa [LineBuffer.feed, push, Feed.text?] using seen
      · simpa [LineBuffer.feed, push] using consecutive
      · simpa [LineBuffer.feed, push, Feed.text?] using rows
    | false =>
      refine ⟨?_, ?_, ?_⟩
      · simpa [LineBuffer.feed, push, Feed.text?] using seen
      · simpa [LineBuffer.feed, push] using consecutive
      · simpa [LineBuffer.feed, push, Feed.text?] using rows

/-- The lines of any feeds cover the rows among them. -/
theorem fed_covers (feeds : List Feed) : Covers (fed feeds) (feeds.filterMap Feed.text?) := by
  -- Induction on the feeds from their end, as the buffer holds what the earlier ones have left.
  induction feeds using List.reverseRecOn with
  | nil => exact ⟨rfl, rfl, rfl⟩
  | append_singleton feeds feed ih =>
    have extended := ih.feed feed
    -- A wrapped row and a row that ends a line are texts alike, and a flush is none.
    have grown : (feeds ++ [feed]).filterMap Feed.text? =
        feeds.filterMap Feed.text? ++ feed.text?.toList := by
      rw [List.filterMap_append]
      cases feed <;> rfl
    rw [fed_concat, grown]
    exact extended

/-- However a buffer is fed, its lines partition the rows, and each of them joins its rows with
positions that lead back to them. -/
theorem assembly_lossless (feeds : List Feed) :
    let texts := feeds.filterMap Feed.text?
    let lines := (fed feeds).1 ++ (fed feeds).2.pending.toList
    (fed feeds).2.rowsSeen = texts.length ∧
      lines.flatMap LogicalLine.numbers = List.range (fed feeds).2.rowsSeen ∧
      ∀ line ∈ lines, line.Joins texts ∧ Function.Injective line.position := by
  -- The lines cover the texts in order, so each of them is a slice of the texts.
  intro texts lines
  have covers : Covers (fed feeds) texts := fed_covers feeds
  refine ⟨covers.seen, ?_, fun line member => ?_⟩
  · rw [covers.consecutive.numbers_eq, List.range_eq_range', Nat.sub_zero]
  · obtain ⟨-, slice⟩ := covers.consecutive.rows_eq member
    rw [covers.rows, Nat.sub_zero] at slice
    have joins := LogicalLine.joins_of_rows slice
    exact ⟨joins, joins.position_injective⟩

/-- A line of three rows, the middle one empty, is flushed before another line begins. -/
example : fed [.row "ä" true, .row "" true, .row "b" true, .flush, .row "c" false] =
    ([⟨0, "ä", ["", "b"]⟩, ⟨3, "c", []⟩], { pending := none, rowsSeen := 4 }) := by
  decide +kernel

end LineBuffer

end Annotator

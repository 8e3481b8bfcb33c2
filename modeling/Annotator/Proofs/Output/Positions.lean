import Annotator.Proofs.Output.Rows
import Mathlib.Algebra.BigOperators.Group.List.Basic
import Mathlib.Algebra.Ring.Nat

/-! The rows of a line lie behind each other in its text, and every byte of it lies in one row. -/

namespace Annotator

namespace Text

/-- The bytes that encode a text. -/
def bytes (text : String) : List UInt8 :=
  -- A text is kept in its encoded form.
  text.toByteArray.data.toList

/-- The encoding of a text has as many bytes as the text is long. -/
theorem length_bytes (text : String) : (bytes text).length = size text :=
  -- The size of a text is the number of its bytes.
  rfl

/-- A text is encoded character by character. -/
theorem bytes_ofList (characters : List Char) :
    bytes (String.ofList characters) = characters.flatMap String.utf8EncodeChar := by
  -- A text is stored as the encodings of its characters, one behind another.
  simp [bytes, String.toByteArray_ofList, List.utf8Encode]

/-- A string is encoded character by character. -/
theorem bytes_eq (text : String) : bytes text = text.toList.flatMap String.utf8EncodeChar := by
  -- The text is made of its own characters.
  rw [← bytes_ofList, String.ofList_toList]

/-- The encoding of joined rows joins the encodings of the rows. -/
theorem bytes_flatMap (rows : List String) :
    bytes (String.ofList (rows.flatMap String.toList)) = rows.flatMap bytes := by
  -- Encoding goes character by character, so it does not see where the rows meet.
  rw [bytes_ofList, List.flatMap_assoc]
  exact List.flatMap_congr fun text _ => (bytes_eq text).symm

end Text

namespace LogicalLine

/-- Every continuation row of a line begins at one of its breaks. -/
theorem length_breaksFrom (start : Nat) (row : String) (rest : List String) :
    (breaksFrom start row rest).length = rest.length := by
  -- Induction on the rows behind the first, each of which stands behind one break.
  induction rest generalizing start row with
  | nil => rfl
  | cons next rest ih => simp [breaksFrom, ih]

/-- A break lies behind all rows in front of it. -/
theorem getElem?_breaksFrom (start : Nat) (row : String) (rest : List String) {place : Nat}
    (within : place < rest.length) :
    (breaksFrom start row rest)[place]? =
      some (start + (((row :: rest).take (place + 1)).map Text.size).sum) := by
  -- Induction on the rows behind the first, as each break counts on from the one before.
  induction rest generalizing start row place with
  | nil => simp at within
  | cons next rest ih =>
    cases place with
    | zero => simp [breaksFrom]
    | succ place =>
      have later : place < rest.length := by simpa using within
      rw [breaksFrom, List.getElem?_cons_succ, ih _ _ later]
      simp only [List.take_succ_cons, List.map_cons, List.sum_cons, Option.some.injEq]
      omega

/-- Breaks do not lie in front of the row that they follow. -/
theorem le_of_mem_breaksFrom {start : Nat} {row : String} {rest : List String} {offset : Nat}
    (member : offset ∈ breaksFrom start row rest) : start ≤ offset := by
  -- Induction on the rows behind the first, as no row takes back what was counted.
  induction rest generalizing start row with
  | nil => simp [breaksFrom] at member
  | cons next rest ih =>
    rw [breaksFrom] at member
    rcases List.mem_cons.mp member with first | later
    · omega
    · have behind := ih later
      omega

/-- Breaks are listed in order. -/
theorem breaksFrom_sorted (start : Nat) (row : String) (rest : List String) :
    (breaksFrom start row rest).Pairwise (· ≤ ·) := by
  -- Each break lies in front of those that count on from it.
  induction rest generalizing start row with
  | nil => exact .nil
  | cons next rest ih =>
    rw [breaksFrom]
    exact .cons (fun offset member => le_of_mem_breaksFrom member) (ih _ _)

/-- An offset is counted from the last break that does not lie behind it. -/
theorem positionFrom_eq_break (number start : Nat) (row : String) (rest : List String)
    (offset : Nat) :
    let count := ((breaksFrom start row rest).takeWhile (· ≤ start + offset)).length
    ∃ base, (start :: breaksFrom start row rest)[count]? = some base ∧ base ≤ start + offset ∧
      positionFrom number row rest offset = ⟨number + count, start + offset - base⟩ := by
  -- Induction on the rows, with the number of bytes in front of them generalized.
  induction rest generalizing number start row offset with
  | nil => exact ⟨start, rfl, by omega, by simp [positionFrom, breaksFrom]⟩
  | cons next rest ih =>
    rw [breaksFrom, positionFrom]
    by_cases inside : offset < Text.size row
    · -- The first break lies behind the offset already.
      have behind : ¬start + Text.size row ≤ start + offset := by omega
      rw [List.takeWhile_cons_of_neg (by simpa using behind), if_pos inside]
      exact ⟨start, rfl, by omega, by simp⟩
    · have reached : start + Text.size row ≤ start + offset := by omega
      have same : start + Text.size row + (offset - Text.size row) = start + offset := by omega
      rw [List.takeWhile_cons_of_pos (by simpa using reached), if_neg inside]
      obtain ⟨base, found, below, mapped⟩ :=
        ih (number + 1) (start + Text.size row) next (offset - Text.size row)
      rw [same] at found below mapped
      refine ⟨base, by simpa using found, below, ?_⟩
      rw [mapped, List.length_cons]
      congr 1
      omega

/-- Every byte of the joined rows is found again in the row that its offset is mapped to. -/
theorem positionFrom_byte (number : Nat) (row : String) (rest : List String) {offset : Nat}
    (within : offset < ((row :: rest).flatMap Text.bytes).length) :
    ∃ place found, (row :: rest)[place]? = some found ∧
      (positionFrom number row rest offset).row = number + place ∧
      (positionFrom number row rest offset).offset < Text.size found ∧
      (Text.bytes found)[(positionFrom number row rest offset).offset]? =
        ((row :: rest).flatMap Text.bytes)[offset]? := by
  -- Induction on the rows: the byte lies in the first one or in those behind it.
  induction rest generalizing number row offset with
  | nil =>
    have single : [row].flatMap Text.bytes = Text.bytes row := by simp
    rw [single] at within ⊢
    exact ⟨0, row, rfl, rfl, within, rfl⟩
  | cons next rest ih =>
    rw [List.flatMap_cons, List.length_append, Text.length_bytes] at within
    rw [List.flatMap_cons, List.getElem?_append, Text.length_bytes, positionFrom]
    by_cases inside : offset < Text.size row
    · rw [if_pos inside, if_pos inside]
      exact ⟨0, row, rfl, rfl, inside, rfl⟩
    · -- The byte is one of the rows behind this one.
      rw [if_neg inside, if_neg inside]
      have later : offset - Text.size row < ((next :: rest).flatMap Text.bytes).length := by omega
      obtain ⟨place, found, taken, same, covered, byte⟩ := ih (number + 1) next later
      exact ⟨place + 1, found, taken, by omega, covered, byte⟩

/-- The end of the joined rows is mapped to the end of the last row. -/
theorem positionFrom_end (number : Nat) (row : String) (rest : List String) :
    ∃ last, (row :: rest)[rest.length]? = some last ∧
      positionFrom number row rest
          ((row :: rest).foldr (fun row total => Text.size row + total) 0) =
        ⟨number + rest.length, Text.size last⟩ := by
  -- Induction on the rows behind the first: all bytes of a row are passed before the next begins.
  induction rest generalizing number row with
  | nil => exact ⟨row, rfl, rfl⟩
  | cons next rest ih =>
    obtain ⟨last, found, mapped⟩ := ih (number + 1) next
    refine ⟨last, found, ?_⟩
    rw [List.foldr_cons, positionFrom, if_neg (by omega), Nat.add_sub_cancel_left, mapped]
    congr 1
    rw [List.length_cons]
    omega

end LogicalLine

end Annotator

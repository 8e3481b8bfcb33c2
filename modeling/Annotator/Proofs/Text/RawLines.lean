import Annotator.Proofs.Output.Positions
import Annotator.Proofs.Text.Padding
import Annotator.Text.RawLines

/-!
Lines that are written to a stream are read back from it, however many carriage returns stand in
front of their newlines, and whether or not there is a newline behind the last one.
-/

namespace Annotator

namespace Text

/-- The carriage return byte. -/
def carriageReturn : UInt8 :=
  -- Only those right in front of a newline or of the end are no text.
  13

/-- A text is a line when no newline is in it and it does not end in a carriage return. -/
def IsLine (text : String) : Prop :=
  -- The empty text is a line.
  '\n' ∉ text.toList ∧ text.toList.getLast? ≠ some '\r'

/-- The bytes of a text with a number of carriage returns behind it. -/
def returned (text : String) (returns : Nat) : List UInt8 :=
  -- Nothing is written of an empty text without carriage returns.
  bytes text ++ List.replicate returns carriageReturn

/-- A stream holds lines when it is what writing them one after the other gives. -/
inductive Holds : List UInt8 → List String → Prop
  /-- An empty stream holds no lines. -/
  | nil : Holds [] []
  /-- A line ends at a newline and others may follow. -/
  | line {text : String} {rest : List UInt8} {lines : List String} (isLine : IsLine text)
      (returns : Nat) (later : Holds rest lines) :
      Holds (returned text returns ++ newline :: rest) (text :: lines)
  /-- The newline behind the last line may be missing if anything is written of the line. -/
  | last {text : String} (isLine : IsLine text) (returns : Nat)
      (written : returned text returns ≠ []) : Holds (returned text returns) [text]

/-- The line that is read from its bytes, if they are text. -/
def lineOf? (piece : List UInt8) : Option String :=
  -- Carriage returns are dropped once the bytes are decoded.
  (decode? piece).map dropReturns

/-- No character but the newline is encoded with a newline byte. -/
theorem eq_newline_of_mem_encoded {c : Char} (inside : newline ∈ String.utf8EncodeChar c) :
    c = '\n' := by
  -- Only an encoding of one byte has a byte below the high ones.
  have code : c.val.toNat = 10 := by
    unfold String.utf8EncodeChar newline at inside
    generalize c.val.toNat = code at inside ⊢
    dsimp only at inside
    -- The bytes of longer encodings are all above those of single characters.
    split_ifs at inside <;> simp [← UInt8.toNat_inj] at inside <;> omega
  exact Char.toNat_inj.mp code

/-- The encoding of a text reads back as the text. -/
theorem decode?_bytes (text : String) : decode? (bytes text) = some text := by
  -- The bytes of a text are valid.
  have valid : (ByteArray.mk (bytes text).toArray).IsValidUTF8 := text.isValidUTF8
  rw [decode?, String.fromUTF8?, dif_pos valid]
  rfl

/-- Carriage returns behind a text are characters of the text that is written. -/
theorem returned_eq_bytes (text : String) (returns : Nat) :
    returned text returns =
      bytes (String.ofList (text.toList ++ List.replicate returns '\r')) := by
  -- A carriage return is one byte.
  have encoded : (List.replicate returns '\r').flatMap String.utf8EncodeChar =
      List.replicate returns carriageReturn := by
    rw [List.flatMap_replicate]
    exact List.flatten_replicate_singleton
  rw [returned, bytes_ofList, List.flatMap_append, encoded, bytes_eq]

/-- A line is read from its bytes whatever carriage returns are written behind it. -/
theorem lineOf?_returned {text : String} (isLine : IsLine text) (returns : Nat) :
    lineOf? (returned text returns) = some text := by
  -- The carriage returns that were added are all that is dropped from the end.
  have inside : ∀ c ∈ List.replicate returns '\r', (c == '\r') = true := fun c member =>
    beq_iff_eq.mpr (List.eq_of_mem_replicate member)
  have ends : ∀ c ∈ text.toList.reverse.head?, (c == '\r') = false := by
    intro c last
    rw [List.head?_reverse] at last
    exact beq_eq_false_iff_ne.mpr fun same => isLine.2 (same ▸ last)
  -- A line does not end in a carriage return itself, so the whole of it is left.
  have kept : text.toList.reverse.dropWhile (· == '\r') = text.toList.reverse :=
    (@run_append (· == '\r') [] _ (by simp) ends).2
  rw [lineOf?, returned_eq_bytes, decode?_bytes, Option.map_some, dropReturns,
    String.toList_ofList, dropBack_append _ _ inside, kept, List.reverse_reverse,
    String.ofList_toList]

/-- No newline is written of a line. -/
theorem newline_notMem_returned {text : String} (isLine : IsLine text) (returns : Nat) :
    newline ∉ returned text returns := by
  -- The line holds no newline, and a carriage return is another byte.
  intro member
  rcases List.mem_append.mp member with inText | inReturns
  · rw [bytes_eq] at inText
    obtain ⟨c, among, encoded⟩ := List.mem_flatMap.mp inText
    exact isLine.1 (eq_newline_of_mem_encoded encoded ▸ among)
  · exact absurd (List.eq_of_mem_replicate inReturns) (by decide)

/-- A piece is cut nowhere if no newline is in it. -/
theorem beq_newline_of_notMem {piece : List UInt8} (whole : newline ∉ piece) :
    ∀ byte ∈ piece, (byte == newline) = false :=
  -- A byte of the piece is not the one that is missing from it.
  fun _ member => beq_eq_false_iff_ne.mpr fun same => whole (same ▸ member)

/-- A stream that begins with a piece and a newline has the piece for its first line. -/
theorem rawLines_append_newline {piece : List UInt8} (whole : newline ∉ piece)
    (rest : List UInt8) : rawLines (piece ++ newline :: rest) = piece :: rawLines rest := by
  -- The newline cuts the piece off, and what is behind it is split as before.
  have apart : (piece ++ newline :: rest).splitOn newline = piece :: rest.splitOn newline :=
    List.splitOnP_append_cons_of_forall_mem (beq_newline_of_notMem whole) newline
      (beq_self_eq_true newline) rest
  -- The pieces of the rest decide whether there is an empty one behind the last newline.
  obtain ⟨next, later, more⟩ := List.exists_cons_of_ne_nil (List.splitOn_ne_nil newline rest)
  rw [rawLines, rawLines, apart, more]
  rw [List.getLast?_cons_cons, List.dropLast_cons_cons]
  split
  · rfl
  · rfl

/-- A stream without a newline is one line if there is anything in it. -/
theorem rawLines_of_notMem {piece : List UInt8} (whole : newline ∉ piece) (written : piece ≠ []) :
    rawLines piece = [piece] := by
  -- Without a newline there is nothing to split at.
  have single : piece.splitOn newline = [piece] :=
    List.splitOnP_eq_singleton (beq_newline_of_notMem whole)
  simp [rawLines, single, written]

/-- The lines that a stream holds are read from it, one from each piece. -/
theorem Holds.read {stream : List UInt8} {lines : List String} (holds : Holds stream lines) :
    (rawLines stream).map lineOf? = lines.map some := by
  -- Induction on how the stream holds its lines, which is how it is split.
  induction holds with
  | nil => rfl
  | line isLine returns _ ih =>
    rw [rawLines_append_newline (newline_notMem_returned isLine returns), List.map_cons, ih,
      lineOf?_returned isLine, List.map_cons]
  | last isLine returns written =>
    rw [rawLines_of_notMem (newline_notMem_returned isLine returns) written, List.map_singleton,
      lineOf?_returned isLine, List.map_singleton]

end Text

end Annotator

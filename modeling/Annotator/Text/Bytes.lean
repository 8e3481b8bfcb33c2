/-! Offsets into text count UTF-8 bytes, and only offsets between characters may be addressed. -/

namespace Annotator.Text

/-- The byte length of a text is the sum of the encoded sizes of its characters. -/
def byteLength : List Char → Nat
  -- Each character contributes one to four bytes.
  | [] => 0
  | c :: rest => c.utf8Size + byteLength rest

/-- An offset is a boundary when some whole number of leading characters fills it exactly. -/
def isBoundary : List Char → Nat → Bool
  -- Characters are consumed from the front until the offset is used up.
  | _, 0 => true
  | [], _ + 1 => false
  | c :: rest, offset + 1 =>
    c.utf8Size ≤ offset + 1 && isBoundary rest (offset + 1 - c.utf8Size)

/-- The size of a string is the number of bytes of its encoding. -/
def size (text : String) : Nat :=
  -- The encoded form carries its own size.
  text.utf8ByteSize

/-- Some number of whole characters of a string fills an offset exactly. -/
def isBoundaryOf (text : String) (offset : Nat) : Bool :=
  -- The characters are consumed from the front.
  isBoundary text.toList offset

@[simp] theorem byteLength_nil : byteLength [] = 0 := by
  -- No characters contribute no bytes.
  rfl

@[simp] theorem byteLength_cons (c : Char) (rest : List Char) :
    byteLength (c :: rest) = c.utf8Size + byteLength rest := by
  -- The sum starts with the first character.
  rfl

/-- Byte lengths add under concatenation. -/
@[simp] theorem byteLength_append (left right : List Char) :
    byteLength (left ++ right) = byteLength left + byteLength right := by
  -- The induction takes the characters of the left text one by one.
  induction left with
  | nil => simp
  | cons c rest ih => rw [List.cons_append, byteLength_cons, byteLength_cons, ih, Nat.add_assoc]

/-- The size of a string is the byte length of its characters. -/
theorem size_ofList (text : List Char) : size (String.ofList text) = byteLength text := by
  -- Pushing a character in front adds its encoded size.
  induction text with
  | nil => simp [size]
  | cons c rest ih =>
    have split : String.ofList (c :: rest) = String.singleton c ++ String.ofList rest := by
      rw [← String.ofList_toList (s := String.singleton c ++ String.ofList rest)]
      simp
    simp only [size] at ih
    rw [size, split, String.utf8ByteSize_append, ih, String.utf8ByteSize_singleton, byteLength_cons]

/-- The size of a string is the byte length of its characters. -/
theorem size_eq_byteLength (text : String) : size text = byteLength text.toList := by
  -- Every string is packed from its characters.
  rw [← size_ofList, String.ofList_toList]

end Annotator.Text

import Annotator.Text.Bytes

/-! Boundaries of a text are the byte lengths of its fronts. -/

namespace Annotator.Text

/-- Only the empty text has no bytes. -/
theorem byteLength_eq_zero {text : List Char} : byteLength text = 0 ↔ text = [] := by
  -- Every character takes one byte at least.
  cases text with
  | nil => simp
  | cons c rest =>
    have := c.utf8Size_pos
    simp only [byteLength_cons, reduceCtorEq, iff_false]
    omega

/-- An offset is a boundary exactly when the text splits there. -/
theorem isBoundary_iff {text : List Char} {offset : Nat} :
    isBoundary text offset = true ↔
      ∃ front back, text = front ++ back ∧ byteLength front = offset := by
  -- Each character of the front uses up its own bytes of the offset.
  induction text generalizing offset with
  | nil =>
    cases offset with
    | zero => exact ⟨fun _ => ⟨[], [], rfl, rfl⟩, fun _ => rfl⟩
    | succ offset =>
      simp only [isBoundary, Bool.false_eq_true, false_iff]
      rintro ⟨front, back, same, filled⟩
      have : front = [] := (List.append_eq_nil_iff.mp same.symm).1
      simp [this] at filled
  | cons c rest ih =>
    cases offset with
    | zero => exact ⟨fun _ => ⟨[], c :: rest, rfl, rfl⟩, fun _ => by simp [isBoundary]⟩
    | succ offset =>
      simp only [isBoundary, Bool.and_eq_true, decide_eq_true_eq, ih]
      constructor
      · rintro ⟨fits, front, back, rfl, filled⟩
        exact ⟨c :: front, back, rfl, by simp only [byteLength_cons]; omega⟩
      · rintro ⟨front, back, same, filled⟩
        cases front with
        | nil => simp at filled
        | cons head front =>
          obtain ⟨rfl, rfl⟩ := List.cons.inj same
          simp only [byteLength_cons] at filled
          exact ⟨by omega, front, back, rfl, by omega⟩

/-- A text may be addressed behind any front of it. -/
theorem isBoundary_byteLength (front back : List Char) :
    isBoundary (front ++ back) (byteLength front) = true :=
  -- The text is cut where the front ends.
  isBoundary_iff.mpr ⟨front, back, rfl, rfl⟩

/-- No boundary lies behind the end of its text. -/
theorem le_byteLength_of_isBoundary {text : List Char} {offset : Nat}
    (bounded : isBoundary text offset = true) : offset ≤ byteLength text := by
  -- What lies in front of a boundary is a part of the text.
  obtain ⟨front, back, rfl, rfl⟩ := isBoundary_iff.mp bounded
  simp

/-- A boundary of a joined text that does not exceed the left part is a boundary of it. -/
theorem isBoundary_left {left right : List Char} {offset : Nat}
    (bounded : isBoundary (left ++ right) offset = true) (within : offset ≤ byteLength left) :
    isBoundary left offset = true := by
  -- A boundary splits the text, and the left part ends in front of or behind the split.
  obtain ⟨front, back, same, rfl⟩ := isBoundary_iff.mp bounded
  -- The split lies inside the left part, or exactly at its end.
  rcases List.append_eq_append_iff.mp same with ⟨middle, rfl, rfl⟩ | ⟨middle, rfl, rfl⟩
  · have : middle = [] := byteLength_eq_zero.mp (by simp at within; omega)
    subst this
    simpa using isBoundary_byteLength left []
  · exact isBoundary_byteLength front middle

/-- A boundary of a joined text that is not inside the left part is a boundary of the rest. -/
theorem isBoundary_right {left right : List Char} {offset : Nat}
    (bounded : isBoundary (left ++ right) offset = true) (behind : byteLength left ≤ offset) :
    isBoundary right (offset - byteLength left) = true := by
  -- The cut lies in the right part, or exactly between the two.
  obtain ⟨front, back, same, rfl⟩ := isBoundary_iff.mp bounded
  rcases List.append_eq_append_iff.mp same with ⟨middle, rfl, rfl⟩ | ⟨middle, rfl, rfl⟩
  · simpa using isBoundary_byteLength middle back
  · have : middle = [] := byteLength_eq_zero.mp (by simp at behind; omega)
    subst this
    simpa using isBoundary_byteLength [] right

end Annotator.Text

import Annotator.Text.Search

/-! A phrase is found at the least offset at which any of the phrases that are sought starts. -/

namespace Annotator

namespace Text

/-- One of several phrases stands at the front of a text. -/
def StartsAny (phrases : List (List Char)) (text : List Char) : Prop :=
  -- What follows the phrase makes no difference.
  ∃ phrase ∈ phrases, phrase <+: text

/-- One of several phrases occurs in a text. -/
def OccursAny (phrases : List (List Char)) (text : List Char) : Prop :=
  -- It may stand anywhere.
  ∃ phrase ∈ phrases, phrase <:+: text

/-- An offset is the least one at which one of several phrases starts in a text. -/
def FirstAt (phrases : List (List Char)) (text : List Char) (offset : Nat) : Prop :=
  -- Offsets count the bytes in front.
  (∃ front back, text = front ++ back ∧ StartsAny phrases back ∧ byteLength front = offset) ∧
    ∀ front back, text = front ++ back → StartsAny phrases back → offset ≤ byteLength front

variable {phrases : List (List Char)} {c : Char} {text : List Char} {offset : Nat}

/-- One of some phrases is found at the start of a text. -/
theorem any_isPrefixOf_iff :
    phrases.any (·.isPrefixOf text) = true ↔ StartsAny phrases text := by
  -- The phrases are tried one by one.
  simp [StartsAny]

/-- What occurs in the empty text starts it. -/
theorem occursAny_nil : OccursAny phrases [] ↔ StartsAny phrases [] := by
  -- The empty text has no place but its start.
  simp [OccursAny, StartsAny]

/-- A phrase occurs at the front or behind the first character. -/
theorem occursAny_cons :
    OccursAny phrases (c :: text) ↔ StartsAny phrases (c :: text) ∨ OccursAny phrases text := by
  -- A phrase starts with the first character or lies behind it.
  simp only [OccursAny, StartsAny, List.infix_cons_iff, and_or_left, exists_or]

/-- No phrase starts in front of the front. -/
theorem firstAt_zero (starts : StartsAny phrases text) : FirstAt phrases text 0 :=
  -- No place lies in front of the start.
  ⟨⟨[], text, rfl, starts, rfl⟩, fun _ _ _ _ => Nat.zero_le _⟩

/-- Unless a phrase starts at the front, the first one starts behind the first character. -/
theorem FirstAt.cons (later : ¬ StartsAny phrases (c :: text))
    (first : FirstAt phrases text offset) :
    FirstAt phrases (c :: text) (c.utf8Size + offset) := by
  -- Places behind the first character are counted from it, and none is at the start.
  obtain ⟨⟨front, back, rfl, starts, rfl⟩, least⟩ := first
  refine ⟨⟨c :: front, back, rfl, starts, rfl⟩, fun other rest same found => ?_⟩
  cases other with
  | nil => exact absurd (same ▸ found) later
  | cons head other =>
    obtain ⟨rfl, tail⟩ := List.cons.inj same
    exact Nat.add_le_add_left (least other rest tail found) _

/-- What is found is the least offset at which a phrase starts. -/
theorem firstOffset?_firstAt (found : firstOffset? phrases text = some offset) :
    FirstAt phrases text offset := by
  -- Induction on the text, as the search goes from the front.
  induction text generalizing offset with
  | nil =>
    unfold firstOffset? at found
    split at found
    · rename_i empty
      cases found
      obtain ⟨phrase, member, nothing⟩ := List.any_eq_true.mp empty
      exact firstAt_zero ⟨phrase, member, List.isEmpty_iff.mp nothing ▸ List.nil_prefix⟩
    · cases found
  | cons c rest ih =>
    unfold firstOffset? at found
    split at found
    · rename_i starts
      cases found
      exact firstAt_zero (any_isPrefixOf_iff.mp starts)
    · rename_i later
      obtain ⟨behind, next, rfl⟩ := Option.map_eq_some_iff.mp found
      exact (ih next).cons fun starts => later (any_isPrefixOf_iff.mpr starts)

/-- Something is found exactly if one of the phrases occurs. -/
theorem isSome_firstOffset? :
    (firstOffset? phrases text).isSome = true ↔ OccursAny phrases text := by
  -- Induction on the text, as the search goes from the front.
  induction text with
  | nil =>
    rw [occursAny_nil, ← any_isPrefixOf_iff, firstOffset?]
    have empty : (phrases.any (·.isEmpty)) = phrases.any (·.isPrefixOf []) :=
      congrArg phrases.any (funext fun phrase => by cases phrase <;> rfl)
    rw [empty]
    split <;> simp_all
  | cons c rest ih =>
    rw [occursAny_cons, ← any_isPrefixOf_iff, ← ih, firstOffset?]
    split <;> simp_all

/-- A phrase is contained in a text exactly if it occurs in it. -/
theorem contains_iff {phrase text : List Char} :
    contains phrase text = true ↔ phrase <:+: text := by
  -- Induction on the text, as the search goes from the front.
  induction text with
  | nil => simp [contains]
  | cons c rest ih =>
    rw [contains, Bool.or_eq_true, ih, List.isPrefixOf_iff_prefix, List.infix_cons_iff]

/-- A phrase without a mark occurs on one side of the mark or on the other. -/
theorem infix_mark_iff {mark : Char} {phrase front back : List Char} (unmarked : mark ∉ phrase) :
    phrase <:+: front ++ mark :: back ↔ phrase <:+: front ∨ phrase <:+: back := by
  -- The phrase cannot reach across the mark, since the mark is not in it.
  constructor
  · rintro ⟨before, behind, same⟩
    rw [List.append_assoc] at same
    rcases List.append_eq_append_iff.mp same with ⟨middle, rfl, rest⟩ | ⟨middle, rfl, rest⟩
    · -- The phrase begins in front of the mark, so it ends there too.
      rcases List.append_eq_append_iff.mp rest with ⟨more, rfl, -⟩ | ⟨more, rfl, marked⟩
      · exact .inl ⟨before, more, by rw [List.append_assoc]⟩
      · cases more with
        | nil => exact .inl ⟨before, [], by simp⟩
        | cons c more =>
          obtain ⟨rfl, -⟩ := List.cons.inj marked
          exact absurd (List.mem_append_right _ List.mem_cons_self) unmarked
    · cases middle with
      | nil =>
        -- The phrase begins right at the mark, so that nothing can be in it.
        cases phrase with
        | nil => exact .inl List.nil_infix
        | cons c phrase =>
          obtain ⟨rfl, -⟩ := List.cons.inj rest
          exact absurd List.mem_cons_self unmarked
      | cons c middle =>
        obtain ⟨-, rfl⟩ := List.cons.inj rest
        exact .inr ⟨middle, behind, List.append_assoc _ _ _⟩
  · rintro (⟨before, behind, rfl⟩ | ⟨before, behind, rfl⟩)
    · exact ⟨before, behind ++ mark :: back, by simp⟩
    · exact ⟨front ++ mark :: before, behind, by simp⟩

end Text

end Annotator

import Annotator.Proofs.Text.Padding

/-! A text consists of words with blanks around them, and the first word is the first of them. -/

namespace Annotator

namespace Text

/-- A word stands first in a text, with at most blanks in front of it. -/
structure FirstWord (text word : List Char) : Prop where
  /-- There is something of it. -/
  nonempty : word ≠ []
  /-- It has no blank. -/
  solid : ∀ c ∈ word, isBlank c = false
  /-- Blanks are in front of it, and it ends at a blank or with the text. -/
  stands : ∃ before behind, text = before ++ word ++ behind ∧
    (∀ c ∈ before, isBlank c = true) ∧ ∀ c ∈ behind.head?, isBlank c = true

/-- A text consists of words in order, with blanks between them and maybe around them. -/
inductive Consists : List Char → List (List Char) → Prop
  /-- Blanks alone hold no word. -/
  | blanks {gap : List Char} (blank : ∀ c ∈ gap, isBlank c = true) : Consists gap []
  /-- A word has blanks in front of it, and ends at a blank or with the text. -/
  | word {gap word rest : List Char} {later : List (List Char)}
    (blank : ∀ c ∈ gap, isBlank c = true) (nonempty : word ≠ [])
    (solid : ∀ c ∈ word, isBlank c = false) (ends : ∀ c ∈ rest.head?, isBlank c = true)
    (behind : Consists rest later) : Consists (gap ++ word ++ rest) (word :: later)

variable {text word : List Char}

/-- Blanks at the front of a text are no part of a word. -/
theorem words_append_blank {before : List Char} (blank : ∀ c ∈ before, isBlank c = true)
    (text : List Char) : words (before ++ text) = words text := by
  -- Induction on the blanks: each of them splits off an empty piece, which is no word.
  induction before with
  | nil => rfl
  | cons c before ih =>
    have here : isBlank c = true := blank c List.mem_cons_self
    have none : ∀ other ∈ ([] : List Char), isBlank other = false := by simp
    have apart : (c :: (before ++ text)).splitOnP isBlank =
        [] :: (before ++ text).splitOnP isBlank :=
      List.splitOnP_append_cons_of_forall_mem none c here _
    rw [words, List.cons_append, apart]
    exact ih fun other member => blank other (List.mem_cons_of_mem c member)

/-- A word that ends at a blank or with the text is the first of the words. -/
theorem words_append_word (nonempty : word ≠ []) (solid : ∀ c ∈ word, isBlank c = false)
    {rest : List Char} (ends : ∀ c ∈ rest.head?, isBlank c = true) :
    words (word ++ rest) = word :: words rest := by
  -- The word ends with the text or at a blank.
  cases rest with
  | nil =>
    rw [List.append_nil, words, List.splitOnP_eq_singleton solid]
    simp [nonempty, words]
  | cons c rest =>
    -- The blank that ends the word begins no word itself.
    have blank : isBlank c = true := ends c rfl
    have alone : ∀ other ∈ [c], isBlank other = true := by simpa using blank
    have later : words (c :: rest) = words rest := words_append_blank alone rest
    rw [later, words, List.splitOnP_append_cons_of_forall_mem solid c blank]
    simp [nonempty, words]

/-- The first word of a text is the first of its words. -/
theorem FirstWord.head_words (first : FirstWord text word) : (words text).head? = some word := by
  -- The blanks in front of it go first, and then it is split off itself.
  obtain ⟨before, behind, rfl, blank, ends⟩ := first.stands
  rw [List.append_assoc, words_append_blank blank,
    words_append_word first.nonempty first.solid ends]
  rfl

/-- A text has one first word at most. -/
theorem FirstWord.unique {other : List Char} (first : FirstWord text word)
    (also : FirstWord text other) : word = other :=
  -- Both are the head of the words of the text.
  Option.some.inj (first.head_words.symm.trans also.head_words)

/-- A text that is not blank has a first word. -/
theorem exists_firstWord (typed : ¬ ∀ c ∈ text, isBlank c = true) :
    ∃ word, FirstWord text word := by
  -- The text is split behind the blanks at its front and again behind the word there.
  obtain ⟨before, rest, rfl, blank, starts, -, -⟩ := exists_run isBlank text
  obtain ⟨word, behind, rfl, solid, ends, -, -⟩ := exists_run (fun c => !isBlank c) rest
  refine ⟨word, ?_, fun c member => by simpa using solid c member, before, behind,
    by rw [List.append_assoc], blank, fun c first => by simpa using ends c first⟩
  -- Without a word the text goes on blank behind the blanks at its front, or not at all.
  rintro rfl
  rw [List.nil_append] at starts
  cases behind with
  | nil => exact typed (by simpa using blank)
  | cons c rest =>
    have goesOn : isBlank c = true := by simpa using ends c rfl
    rw [starts c rfl] at goesOn
    cases goesOn

/-- A text has the words that it consists of. -/
theorem Consists.words_eq {pieces : List (List Char)} (consists : Consists text pieces) :
    words text = pieces := by
  -- Induction on how the text is put together, word by word.
  induction consists with
  | blanks blank =>
    have nothing := words_append_blank blank []
    rwa [List.append_nil] at nothing
  | word blank nonempty solid ends behind ih =>
    rw [List.append_assoc, words_append_blank blank, words_append_word nonempty solid ends, ih]

/-- Every text consists of its words. -/
theorem consists_words (text : List Char) : Consists text (words text) := by
  -- Behind the first word the text is shorter, so its length carries the induction.
  induction size : text.length using Nat.strong_induction_on generalizing text with
  | _ total ih =>
    by_cases typed : ∀ c ∈ text, isBlank c = true
    · rw [(Consists.blanks typed).words_eq]
      exact .blanks typed
    · obtain ⟨word, nonempty, solid, before, behind, rfl, blank, ends⟩ := exists_firstWord typed
      have shorter : behind.length < total := by
        have some := List.length_pos_iff.mpr nonempty
        rw [← size, List.length_append, List.length_append]
        omega
      have whole := Consists.word blank nonempty solid ends (ih _ shorter behind rfl)
      rwa [whole.words_eq]

/-- The words of a text are all that it consists of. -/
theorem consists_iff {pieces : List (List Char)} : Consists text pieces ↔ words text = pieces := by
  -- The text consists of its words, and of nothing else.
  constructor
  · exact Consists.words_eq
  · rintro rfl
    exact consists_words text

/-- The first of the words of a text is its first word. -/
theorem head?_words_eq_some_iff : (words text).head? = some word ↔ FirstWord text word := by
  -- The first word is the first piece of the text that is not blank.
  constructor
  · intro found
    obtain ⟨later, same⟩ := List.head?_eq_some_iff.mp found
    -- The text begins as the list of its words does.
    cases consists_iff.mpr same with
    | word blank nonempty solid ends behind =>
      exact ⟨nonempty, solid, _, _, rfl, blank, ends⟩
  · exact FirstWord.head_words

/-- A text does not start blank when its first character, if there is one, is no blank. -/
theorem startsBlank_eq_false_iff :
    startsBlank text = false ↔ ∀ c ∈ text.head?, isBlank c = false := by
  -- An empty text does not start blank.
  cases text <;> simp [startsBlank]

/-- A text with blanks around it has the same first word. -/
theorem FirstWord.padded {core : List Char} (pads : Pads text core) (first : FirstWord core word) :
    FirstWord text word := by
  -- Blanks in front of the core are blanks in front of the word.
  obtain ⟨front, back, rfl, blankFront, blankBack⟩ := pads
  obtain ⟨before, behind, rfl, blank, ends⟩ := first.stands
  refine ⟨first.nonempty, first.solid, front ++ before, behind ++ back, by simp, ?_, ?_⟩
  · intro c member
    exact (List.mem_append.mp member).elim (blankFront c) (blank c)
  · intro c next
    rw [List.head?_append] at next
    -- Behind the word comes the rest of the core, or else the padding.
    cases behind with
    | nil => exact blankBack c (List.mem_of_head? next)
    | cons d rest => exact ends c next

/-- A text without blanks is its own first word. -/
theorem firstWord_self (nonempty : word ≠ []) (solid : ∀ c ∈ word, isBlank c = false) :
    FirstWord word word :=
  -- Nothing stands in front of the word or behind it.
  ⟨nonempty, solid, [], [], by simp, by simp, by simp⟩

end Text

end Annotator

import Annotator.Listing.Basic
import Annotator.Proofs.Action.Reserved
import Annotator.Proofs.Text.Words

/-! A line of a listing is read as its words and the lines in front of it tell. -/

namespace Annotator

namespace Column

/-- A column selects a word of a row. -/
inductive Selects (row : List Char) : Column → List Char → Prop
  /-- A place selects the word with as many words in front of it. -/
  | index {front back : List (List Char)} {word : List Char}
    (consists : Text.Consists row (front ++ word :: back)) : Selects row (.index front.length) word
  /-- The last word has none behind it. -/
  | last {front : List (List Char)} {word : List Char}
    (consists : Text.Consists row (front ++ [word])) : Selects row .last word
  /-- The leading column selects the first word, if no blank stands in front of it. -/
  | leading {word : List Char} (flush : ∀ c ∈ row.head?, isBlank c = false)
    (first : Text.FirstWord row word) : Selects row .leading word

/-- A column selects the word that is picked from a row. -/
theorem pick?_eq_some_iff {column : Column} {row word : List Char} :
    column.pick? row = some word ↔ column.Selects row word := by
  -- One case for each kind of column, in both directions.
  constructor
  · intro picked
    cases column with
    | index place =>
      -- The words of the row are cut at the place of the one that is picked.
      obtain ⟨inside, same⟩ := List.getElem?_eq_some_iff.mp picked
      have cut : Text.words row =
          (Text.words row).take place ++ word :: (Text.words row).drop (place + 1) := by
        rw [← same, List.getElem_cons_drop, List.take_append_drop]
      have front : ((Text.words row).take place).length = place :=
        List.length_take_of_le (Nat.le_of_lt inside)
      have selects := Selects.index (Text.consists_iff.mpr cut)
      rwa [front] at selects
    | last =>
      obtain ⟨front, same⟩ := List.getLast?_eq_some_iff.mp picked
      exact .last (Text.consists_iff.mpr same)
    | leading =>
      unfold pick? at picked
      cases starts : Text.startsBlank row with
      | true => simp [starts] at picked
      | false =>
        rw [starts, if_neg Bool.false_ne_true] at picked
        exact .leading (Text.startsBlank_eq_false_iff.mp starts)
          (Text.head?_words_eq_some_iff.mp picked)
  · intro selects
    cases selects with
    | index consists =>
      unfold pick?
      rw [consists.words_eq]
      simp
    | last consists =>
      unfold pick?
      rw [consists.words_eq, List.getLast?_concat]
    | leading flush first =>
      unfold pick?
      rw [Text.startsBlank_eq_false_iff.mpr flush, if_neg Bool.false_ne_true, first.head_words]

end Column

namespace ListingFormat

/-- A line has a key. -/
structure HasKey (format : ListingFormat) (line key : List Char) : Prop where
  /-- Under a leading column the line does not start blank. -/
  flush : format.column = .leading → ∀ c ∈ line.head?, isBlank c = false
  /-- The key is the first word of the line. -/
  first : Text.FirstWord line key

/-- A line has the key that is found in it. -/
theorem key?_eq_some_iff {format : ListingFormat} {line key : List Char} :
    format.key? line = some key ↔ format.HasKey line key := by
  -- Only a line that begins with a blank under a leading column is read without its first word.
  unfold key?
  by_cases indented : format.column = .leading ∧ Text.startsBlank line = true
  · -- An indented line under a leading column has no key, whatever its words are.
    rw [if_pos (by simpa using indented)]
    have unkeyed : ¬ format.HasKey line key := by
      intro keyed
      rw [Text.startsBlank_eq_false_iff.mpr (keyed.flush indented.1)] at indented
      cases indented.2
    exact iff_of_false (by simp) unkeyed
  · rw [if_neg (by simpa using indented), Text.head?_words_eq_some_iff]
    refine ⟨fun first => ⟨fun leading => ?_, first⟩, HasKey.first⟩
    rw [← Text.startsBlank_eq_false_iff, Bool.eq_false_iff]
    exact fun starts => indented ⟨leading, starts⟩

/-- A line lists an object of a name, given the texts of the lines in front of it. -/
structure Lists (format : ListingFormat) (earlier : List String) (line name : String) : Prop where
  /-- The table has not ended, if empty lines end it. -/
  going : format.stopOnBlank = true → ∀ text ∈ earlier ++ [line], text ≠ ""
  /-- A header came before. -/
  opened : ∃ text ∈ earlier, format.HasKey text.toList format.header.toList
  /-- The line has a key, and is no header itself. -/
  keyed : ∃ key, format.HasKey line.toList key ∧ key ≠ format.header.toList
  /-- The name is the word of the column. -/
  named : format.column.Selects line.toList name.toList
  /-- The name may enter an action. -/
  clean : Undelimited name

/-- A listing that has not ended is in a phase, given the texts of its lines so far. -/
structure Reached (format : ListingFormat) (passed : List String) (phase : ListingPhase) :
    Prop where
  /-- No empty line has ended the table. -/
  going : format.stopOnBlank = true → ∀ text ∈ passed, text ≠ ""
  /-- Rows are expected exactly behind a header. -/
  opened : phase = .rows ↔ ∃ text ∈ passed, format.HasKey text.toList format.header.toList

/-- The phase behind a line. -/
def phaseAfter (format : ListingFormat) (phase : ListingPhase) (line : String) : ListingPhase :=
  -- Only a header changes it.
  if format.read phase line = .header then .rows else phase

variable {format : ListingFormat} {phase : ListingPhase} {passed : List String}
  {line name : String}

/-- Exactly an empty line ends the table, if empty lines do. -/
theorem read_eq_endOfTable_iff :
    format.read phase line = .endOfTable ↔ format.stopOnBlank = true ∧ line = "" := by
  -- The end of the table is asked for first, and no later branch gives it.
  unfold read
  by_cases blank : (format.stopOnBlank && line.isEmpty) = true
  · rw [if_pos blank]
    simpa using blank
  · rw [if_neg blank]
    have going : ¬ (format.stopOnBlank = true ∧ line = "") := by simpa using blank
    refine iff_of_false ?_ going
    split
    · simp
    · split
      · simp
      · split
        · simp
        · split <;> simp

/-- What is read of a line that does not end the table depends on its key. -/
theorem read_of_going (going : format.read phase line ≠ .endOfTable) :
    format.read phase line =
      match format.key? line.toList with
      | none => .other
      | some key =>
        if key = format.header.toList then .header
        else if phase = .awaitingHeader then .other
        else ((format.object? line.toList).map ListingReading.row).getD .other := by
  -- Only an empty line ends a table, so the first branch is not taken.
  have unblank : ¬ (format.stopOnBlank && line.isEmpty) = true := by
    intro blank
    exact going (read_eq_endOfTable_iff.mpr (by simpa using blank))
  unfold read
  rw [if_neg unblank]
  cases format.key? line.toList with
  | none => rfl
  | some key =>
    simp only [beq_iff_eq]
    cases format.object? line.toList <;> rfl

/-- A line is read as a header exactly if the word of the header is its key. -/
theorem read_eq_header_iff (going : format.read phase line ≠ .endOfTable) :
    format.read phase line = .header ↔ format.HasKey line.toList format.header.toList := by
  -- Only the branch of that key gives a header, in whatever phase.
  rw [read_of_going going, ← key?_eq_some_iff]
  cases format.key? line.toList with
  | none => simp
  | some key =>
    dsimp only
    by_cases same : key = format.header.toList
    · simp [same]
    · rw [if_neg same]
      have other : some key ≠ some format.header.toList := by simpa using same
      refine iff_of_false ?_ other
      split
      · simp
      · cases format.object? line.toList <;> simp

/-- A row names the word of its column as its object, if that word has no delimiter. -/
theorem object?_eq_some_iff {line : List Char} :
    format.object? line = some name ↔
      format.column.Selects line name.toList ∧ Undelimited name := by
  -- The filter is the condition on delimiters, and the rest is the choice of the column.
  unfold object?
  rw [Option.filter_eq_some_iff, Option.map_eq_some_iff, ← Column.pick?_eq_some_iff,
    ← hasReserved_eq_false_iff_undelimited]
  -- The word is packed into a string before it is tested.
  constructor
  · rintro ⟨⟨word, picked, rfl⟩, clean⟩
    rw [String.toList_ofList]
    exact ⟨picked, by simpa using clean⟩
  · rintro ⟨picked, clean⟩
    exact ⟨⟨_, picked, String.ofList_toList⟩, by simpa using clean⟩

/-- A line is read as a row behind a header, if it has another key and names an object. -/
theorem read_eq_row_iff (going : format.read phase line ≠ .endOfTable) :
    format.read phase line = .row name ↔
      (∃ key, format.HasKey line.toList key ∧ key ≠ format.header.toList) ∧ phase = .rows ∧
        format.object? line.toList = some name := by
  -- The line has a first word, is not a header, and comes behind one.
  simp only [← key?_eq_some_iff]
  rw [read_of_going going]
  -- Each condition is one branch of the reading, in the order of its questions.
  cases format.key? line.toList with
  | none => simp
  | some key =>
    by_cases header : key = format.header.toList
    · simp [header]
    · cases phase with
      | awaitingHeader => simp [header]
      | rows => cases format.object? line.toList <;> simp [header]

/-- A line is read as a row exactly if it lists an object. -/
theorem Reached.lists_iff (reached : format.Reached passed phase) :
    format.Lists passed line name ↔ format.read phase line = .row name := by
  -- The phase says whether a header came before, and a table that goes on has met no empty line.
  constructor
  · intro lists
    have going : format.read phase line ≠ .endOfTable := by
      intro ended
      obtain ⟨stops, blank⟩ := read_eq_endOfTable_iff.mp ended
      exact lists.going stops line (by simp) blank
    rw [read_eq_row_iff going]
    exact ⟨lists.keyed, reached.opened.mpr lists.opened,
      object?_eq_some_iff.mpr ⟨lists.named, lists.clean⟩⟩
  · intro reading
    have going : format.read phase line ≠ .endOfTable := by simp [reading]
    obtain ⟨keyed, rows, object⟩ := (read_eq_row_iff going).mp reading
    obtain ⟨named, clean⟩ := object?_eq_some_iff.mp object
    refine ⟨fun stops text member => ?_, reached.opened.mp rows, keyed, named, clean⟩
    rcases List.mem_append.mp member with before | here
    · exact reached.going stops text before
    · rw [List.mem_singleton.mp here]
      exact fun blank => going (read_eq_endOfTable_iff.mpr ⟨stops, blank⟩)

/-- A line that does not end the table leads to the phase behind it. -/
theorem Reached.next (reached : format.Reached passed phase)
    (going : format.read phase line ≠ .endOfTable) :
    format.Reached (passed ++ [line]) (format.phaseAfter phase line) where
  -- The line is the last of those passed, and the others have been accounted for.
  going := by
    intro stops text member
    rcases List.mem_append.mp member with before | here
    · exact reached.going stops text before
    · rw [List.mem_singleton.mp here]
      exact fun blank => going (read_eq_endOfTable_iff.mpr ⟨stops, blank⟩)
  opened := by
    unfold phaseAfter
    by_cases header : format.HasKey line.toList format.header.toList
    · rw [if_pos ((read_eq_header_iff going).mpr header)]
      exact iff_of_true rfl ⟨line, by simp, header⟩
    · -- A line that is no header opens nothing.
      rw [if_neg (mt (read_eq_header_iff going).mp header), reached.opened]
      constructor
      · rintro ⟨text, before, key⟩
        exact ⟨text, List.mem_append_left _ before, key⟩
      · rintro ⟨text, member, key⟩
        rcases List.mem_append.mp member with before | here
        · exact ⟨text, before, key⟩
        · rw [List.mem_singleton.mp here] at key
          exact absurd key header

end ListingFormat

end Annotator

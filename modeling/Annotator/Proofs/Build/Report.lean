import Annotator.Build.Diagnostic
import Annotator.Proofs.Text.Runs
import Mathlib.Data.List.Basic

/-! A report begins with a place, and of the places that its line allows the shortest path wins. -/

namespace Annotator

/-- No digit is white space. -/
theorem isBlank_of_isDecimalDigit {c : Char} (digit : isDecimalDigit c = true) :
    isBlank c = false := by
  -- All blanks are tried one by one.
  have none : ∀ n ∈ [0x09, 0x0A, 0x0B, 0x0C, 0x0D, 0x20, 0x85, 0xA0, 0x1680, 0x2000, 0x2001, 0x2002,
      0x2003, 0x2004, 0x2005, 0x2006, 0x2007, 0x2008, 0x2009, 0x200A, 0x2028, 0x2029, 0x202F,
      0x205F, 0x3000], isDecimalDigit (Char.ofNat n) = false := by decide +kernel
  rw [Bool.eq_false_iff]
  intro blank
  rw [← Char.ofNat_toNat c, none c.toNat] at digit
  · cases digit
  · simp only [isBlank, Bool.or_eq_true, Bool.and_eq_true, decide_eq_true_eq, beq_iff_eq] at blank
    simp only [List.mem_cons, List.not_mem_nil, or_false]
    omega

namespace DiagnosticKind

/-- A text announces a kind of report when it begins with one of its phrases. -/
inductive Announces : DiagnosticKind → List Char → Prop
  /-- An error may be called just that. -/
  | error (rest : List Char) : Announces .error ("error: ".toList ++ rest)
  /-- It may be fatal. -/
  | fatal (rest : List Char) : Announces .error ("fatal error: ".toList ++ rest)
  /-- A linker tells what is missing. -/
  | undefined (rest : List Char) : Announces .error ("undefined reference to ".toList ++ rest)
  /-- A compiler tells what it cannot do yet. -/
  | unimplemented (rest : List Char) : Announces .error ("sorry, unimplemented: ".toList ++ rest)
  /-- A warning is always called one. -/
  | warning (rest : List Char) : Announces .warning ("warning: ".toList ++ rest)
  /-- So is a note. -/
  | note (rest : List Char) : Announces .note ("note: ".toList ++ rest)
  /-- A note may say where a template was required, behind any number of spaces. -/
  | required (spaces : Nat) (rest : List Char) :
    Announces .note (List.replicate spaces ' ' ++ ("required from here".toList ++ rest))

variable {kind other : DiagnosticKind} {text : List Char}

/-- Each of the keywords announces a report of its kind. -/
theorem Announces.of_keyword {phrase : String}
    (keyword : (phrase, kind) ∈ [("error: ", DiagnosticKind.error), ("fatal error: ", .error),
      ("undefined reference to ", .error), ("sorry, unimplemented: ", .error),
      ("warning: ", .warning), ("note: ", .note)])
    (rest : List Char) : kind.Announces (phrase.toList ++ rest) := by
  -- Each pair of the list is one constructor.
  simp only [List.mem_cons, Prod.mk.injEq, List.not_mem_nil, or_false] at keyword
  rcases keyword with ⟨rfl, rfl⟩ | ⟨rfl, rfl⟩ | ⟨rfl, rfl⟩ | ⟨rfl, rfl⟩ | ⟨rfl, rfl⟩ | ⟨rfl, rfl⟩
  · exact .error rest
  · exact .fatal rest
  · exact .undefined rest
  · exact .unimplemented rest
  · exact .warning rest
  · exact .note rest

/-- A phrase that is known for reports with a place announces one. -/
theorem Announces.of_known {phrase : String} (known : phrase ∈ kind.locatedPhrases)
    (rest : List Char) : kind.Announces (phrase.toList ++ rest) := by
  -- The phrases that are known for a kind are its keywords.
  apply of_keyword
  cases kind with
  | error | warning | note => simpa [locatedPhrases] using known

/-- A text is recognized by any phrase at its front that is known for its kind. -/
theorem announcedBy_of_known {phrase : String} (known : phrase ∈ kind.locatedPhrases)
    (rest : List Char) : kind.announcedBy (phrase.toList ++ rest) = true := by
  -- It is enough that one of the phrases stands at the front.
  refine Bool.or_eq_true_iff.mpr (.inl (List.any_eq_true.mpr ⟨phrase, known, ?_⟩))
  exact List.isPrefixOf_iff_prefix.mpr (List.prefix_append _ _)

/-- What is announced is recognized. -/
theorem announcedBy_iff : kind.announcedBy text = true ↔ kind.Announces text := by
  -- What is found by a phrase is announced by it, and every way to announce is one that is tried.
  constructor
  · intro announced
    rcases Bool.or_eq_true_iff.mp announced with known | required
    · obtain ⟨phrase, member, front⟩ := List.any_eq_true.mp known
      obtain ⟨rest, rfl⟩ := List.isPrefixOf_iff_prefix.mp front
      exact .of_known member rest
    · -- Behind the spaces stands the phrase of a note.
      obtain ⟨note, front⟩ := Bool.and_eq_true_iff.mp required
      obtain ⟨rest, same⟩ := List.isPrefixOf_iff_prefix.mp front
      cases beq_iff_eq.mp note
      obtain ⟨run, behind, rfl, spaces, _, _, left⟩ := Text.exists_run (· == ' ') text
      have all : run = List.replicate run.length ' ' :=
        List.eq_replicate_of_mem fun c member => by simpa using spaces c member
      rw [all, ← left, ← same]
      exact .required run.length rest
  · intro announces
    cases announces with
    | error rest => exact announcedBy_of_known (by decide) rest
    | fatal rest => exact announcedBy_of_known (by decide) rest
    | undefined rest => exact announcedBy_of_known (by decide) rest
    | unimplemented rest => exact announcedBy_of_known (by decide) rest
    | warning rest => exact announcedBy_of_known (by decide) rest
    | note rest => exact announcedBy_of_known (by decide) rest
    | required spaces rest =>
      -- The spaces are dropped before the phrase is looked for.
      have inside : ∀ c ∈ List.replicate spaces ' ', (c == ' ') = true :=
        fun c member => by simpa using List.eq_of_mem_replicate member
      have left : (List.replicate spaces ' ' ++ ("required from here".toList ++ rest)).dropWhile
          (· == ' ') = "required from here".toList ++ rest :=
        (Text.run_append (· == ' ') inside (by rintro c ⟨⟩; decide)).2
      refine Bool.or_eq_true_iff.mpr (.inr (Bool.and_eq_true_iff.mpr ⟨rfl, ?_⟩))
      rw [left]
      exact List.isPrefixOf_iff_prefix.mpr (List.prefix_append _ _)

/-- The kind that a text may announce, given its first character. -/
def ofInitial (initial : Char) : DiagnosticKind :=
  -- No phrase of one kind begins like a phrase of another.
  if initial ∈ ['e', 'f', 'u', 's'] then .error else if initial = 'w' then .warning else .note

/-- The first character of a text decides which kind it may announce. -/
theorem Announces.initial (announces : kind.Announces text) :
    text.head?.map ofInitial = some kind := by
  -- Every phrase has a first character, but for spaces in front of the last one.
  cases announces with
  | error rest | fatal rest | undefined rest | unimplemented rest | warning rest | note rest => rfl
  | required spaces rest =>
    cases spaces with
    | zero => rfl
    | succ spaces => rfl

/-- A text announces at most one kind. -/
theorem Announces.unique (announces : kind.Announces text) (also : other.Announces text) :
    kind = other :=
  -- The first character belongs to the phrases of one kind only.
  Option.some.inj (announces.initial.symm.trans also.initial)

end DiagnosticKind

namespace SourcePlace

/-- A path is nonempty and has no white space. -/
def IsPath (text : List Char) : Prop :=
  -- Colons and digits may occur in it.
  text ≠ [] ∧ ∀ c ∈ text, isBlank c = false

/-- A number is a nonempty run of digits. -/
def IsNumber (text : List Char) : Prop :=
  -- Digits of every script count.
  text ≠ [] ∧ ∀ c ∈ text, isDecimalDigit c = true

/-- The line and the column as they are written behind a path. -/
def writtenNumbers (line : List Char) : Option (List Char) → List Char
  -- Each number is closed by a colon.
  | none => ':' :: (line ++ [':'])
  | some column => ':' :: (line ++ ':' :: (column ++ [':']))

/-- A place as it is written in front of a report. -/
def written (place : SourcePlace) : List Char :=
  -- The numbers stand behind the path.
  place.path ++ writtenNumbers place.line place.column

/-- A line may be read as a report of a kind about a place. -/
structure Reports (kind : DiagnosticKind) (place : SourcePlace) (line : List Char) : Prop where
  /-- The path is one. -/
  path : IsPath place.path
  /-- The line number is one. -/
  number : IsNumber place.line
  /-- So is the column, if it is given. -/
  column : ∀ digits ∈ place.column, IsNumber digits
  /-- The place is followed by a space and a text that announces the kind. -/
  announces : ∃ announced, kind.Announces announced ∧ line = place.written ++ ' ' :: announced

/-- A report is read with the place, of all that its line allows, that has the shortest path. -/
def Reads (kind : DiagnosticKind) (place : SourcePlace) (line : List Char) : Prop :=
  -- No two places with paths of one length are possible.
  Reports kind place line ∧
    ∀ other, Reports kind other line → place.path.length ≤ other.path.length

/-- No digit is a colon. -/
theorem IsNumber.no_colon {digits : List Char} (number : IsNumber digits) : ':' ∉ digits :=
  -- A colon is no digit.
  fun member => absurd (number.2 ':' member) (by decide)

/-- A number is read up to the colon that closes it. -/
theorem number?_eq_some_iff {text digits rest : List Char} :
    number? text = some (digits, rest) ↔ IsNumber digits ∧ text = digits ++ ':' :: rest := by
  -- The digits are the longest run of them, since the colon behind them is none.
  constructor
  · intro found
    obtain ⟨run, behind, rfl, inside, _, taken, left⟩ := Text.exists_run isDecimalDigit text
    unfold number? at found
    rw [taken, left] at found
    dsimp only at found
    split at found
    · cases found
      exact ⟨⟨List.cons_ne_nil _ _, inside⟩, rfl⟩
    · cases found
  · rintro ⟨⟨nonempty, inside⟩, rfl⟩
    have ends : ∀ c ∈ (':' :: rest).head?, isDecimalDigit c = false := by
      rintro c ⟨⟩
      decide
    obtain ⟨taken, left⟩ := Text.run_append isDecimalDigit inside ends
    obtain ⟨first, others, rfl⟩ := List.exists_cons_of_ne_nil nonempty
    unfold number?
    rw [taken, left]
    rfl

/-- No number is read from a text that begins with a space. -/
theorem number?_space (text : List Char) : number? (' ' :: text) = none := by
  -- A number has a first digit, and a space is none.
  rw [Option.eq_none_iff_forall_ne_some]
  rintro ⟨digits, rest⟩ found
  obtain ⟨number, same⟩ := number?_eq_some_iff.mp found
  obtain ⟨first, others, rfl⟩ := List.exists_cons_of_ne_nil number.1
  obtain ⟨rfl, _⟩ := List.cons.inj same
  exact absurd (number.2 ' ' List.mem_cons_self) (by decide)

variable {kind other : DiagnosticKind} {line : List Char} {place : SourcePlace}

/-- The numbers behind a path are read as they are written. -/
theorem numbers?_eq_some_iff {text number : List Char} {column : Option (List Char)} :
    numbers? kind text = some (number, column) ↔
      IsNumber number ∧ (∀ digits ∈ column, IsNumber digits) ∧
        ∃ announced, kind.Announces announced ∧
          text = writtenNumbers number column ++ ' ' :: announced := by
  -- Reading goes from the left, so its branches are taken one by one.
  constructor
  · intro found
    unfold numbers? at found
    split at found
    · split at found
      · cases found
      · -- The line is read, and perhaps a column behind it.
        rename_i rest line behind counted
        obtain ⟨isLine, rfl⟩ := number?_eq_some_iff.mp counted
        dsimp only at found
        cases second : number? behind with
        | none =>
          simp only [second] at found
          split at found
          · split at found
            · rename_i announced
              cases found
              exact ⟨isLine, by simp, _, DiagnosticKind.announcedBy_iff.mp announced,
                by simp [writtenNumbers]⟩
            · cases found
          · cases found
        | some pair =>
          obtain ⟨digits, further⟩ := pair
          obtain ⟨isColumn, rfl⟩ := number?_eq_some_iff.mp second
          simp only [second] at found
          split at found
          · split at found
            · rename_i announced
              cases found
              exact ⟨isLine, by rintro _ ⟨⟩; exact isColumn, _,
                DiagnosticKind.announcedBy_iff.mp announced, by simp [writtenNumbers]⟩
            · cases found
          · cases found
    · cases found
  · rintro ⟨isLine, isColumn, announced, announces, rfl⟩
    have recognized := DiagnosticKind.announcedBy_iff.mpr announces
    cases column with
    | none =>
      -- What stands behind the line begins with a space, which begins no column.
      have first : number? (number ++ ':' :: ' ' :: announced) = some (number, ' ' :: announced) :=
        number?_eq_some_iff.mpr ⟨isLine, rfl⟩
      simp [writtenNumbers, numbers?, first, number?_space, recognized]
    | some digits =>
      -- The column stands in front of that space.
      have second : number? (digits ++ ':' :: ' ' :: announced) =
          some (digits, ' ' :: announced) :=
        number?_eq_some_iff.mpr ⟨isColumn digits rfl, rfl⟩
      have first : number? (number ++ ':' :: (digits ++ ':' :: ' ' :: announced)) =
          some (number, digits ++ ':' :: ' ' :: announced) :=
        number?_eq_some_iff.mpr ⟨isLine, rfl⟩
      simp [writtenNumbers, numbers?, first, second, recognized]

/-- A place that is found behind some of a path has numbers behind the whole of it. -/
theorem search?_sound {path text : List Char} (found : search? kind path text = some place) :
    ∃ run rest, text = run ++ rest ∧ (∀ c ∈ run, isBlank c = false) ∧
      place.path = path.reverse ++ run ∧ place.path ≠ [] ∧
        numbers? kind rest = some (place.line, place.column) := by
  -- Induction on the text: a place is found here, or behind one more character of the path.
  induction text generalizing path with
  | nil => simp [search?] at found
  | cons c rest ih =>
    unfold search? at found
    dsimp only at found
    split at found
    · -- The path so far is whole, and the numbers stand right behind it.
      rename_i numbers
      split at numbers
      · cases numbers
      · rename_i begun
        cases found
        refine ⟨[], c :: rest, rfl, by simp, (List.append_nil _).symm, ?_, numbers⟩
        simpa using begun
    · split at found
      · cases found
      · -- The character belongs to the path, as it is no blank.
        rename_i inside
        obtain ⟨run, behind, rfl, nonblank, same, nonempty, numbers⟩ := ih found
        refine ⟨c :: run, behind, rfl, ?_, by simpa using same, nonempty, numbers⟩
        exact List.forall_mem_cons.mpr ⟨by simpa using inside, nonblank⟩

/-- Where there are numbers behind a path, a place is found, and with no longer path. -/
theorem search?_complete {path run rest number : List Char} {column : Option (List Char)}
    (inside : ∀ c ∈ run, isBlank c = false) (nonempty : path.reverse ++ run ≠ [])
    (numbers : numbers? kind rest = some (number, column)) :
    ∃ place, search? kind path (run ++ rest) = some place ∧
      place.path.length ≤ path.length + run.length := by
  -- Induction on the part of the path that is still to come.
  induction run generalizing path with
  | nil =>
    -- The path is complete, and the numbers are tried behind it.
    have begun : path ≠ [] := by simpa using nonempty
    cases rest with
    | nil => cases numbers
    | cons c rest =>
      rw [List.nil_append]
      unfold search?
      simp only [List.isEmpty_eq_false_iff.mpr begun, Bool.false_eq_true, if_false, numbers]
      exact ⟨_, rfl, by simp⟩
  | cons c run ih =>
    obtain ⟨nonblank, later⟩ := List.forall_mem_cons.mp inside
    rw [List.cons_append]
    unfold search?
    dsimp only
    split
    · -- A place is found right here, with a shorter path.
      exact ⟨_, rfl, by simp⟩
    · rw [nonblank]
      have longer : (c :: path).reverse ++ run ≠ [] := by simp
      obtain ⟨place, found, short⟩ := ih later longer
      refine ⟨place, found, ?_⟩
      simp only [List.length_cons] at short ⊢
      omega

/-- The place that is found is the one with the shortest path. -/
theorem search?_eq_some_iff : search? kind [] line = some place ↔ Reads kind place line := by
  -- What is found is a report, and where a report is possible none with a longer path is found.
  have sound {place : SourcePlace} (found : search? kind [] line = some place) :
      Reports kind place line ∧
        ∃ rest, line = place.path ++ rest ∧
          numbers? kind rest = some (place.line, place.column) := by
    obtain ⟨run, rest, rfl, inside, path, nonempty, numbers⟩ := search?_sound found
    obtain ⟨number, column, announced, announces, rfl⟩ := numbers?_eq_some_iff.mp numbers
    have same : place.path = run := path
    rw [same] at nonempty
    refine ⟨⟨same ▸ ⟨nonempty, inside⟩, number, column, announced, announces, ?_⟩, _,
      by rw [same], numbers⟩
    rw [written, same, List.append_assoc]
  have complete {other : SourcePlace} (reports : Reports kind other line) :
      ∃ place, search? kind [] line = some place ∧ place.path.length ≤ other.path.length := by
    obtain ⟨⟨nonempty, inside⟩, number, column, announced, announces, rfl⟩ := reports
    have numbers := numbers?_eq_some_iff.mpr ⟨number, column, announced, announces, rfl⟩
    have begun : ([] : List Char).reverse ++ other.path ≠ [] := by simpa using nonempty
    obtain ⟨place, found, short⟩ := search?_complete inside begun numbers
    refine ⟨place, ?_, by simpa using short⟩
    rwa [written, List.append_assoc]
  constructor
  · intro found
    refine ⟨(sound found).1, fun other reports => ?_⟩
    obtain ⟨shortest, same, short⟩ := complete reports
    rw [found] at same
    cases same
    exact short
  · rintro ⟨reports, least⟩
    obtain ⟨shortest, found, short⟩ := complete reports
    obtain ⟨also, rest, split, numbers⟩ := sound found
    have long := least shortest also
    -- Paths of one length are the same front of the line, and the numbers behind are read once.
    obtain ⟨announced, announces, whole⟩ := reports.announces
    rw [written, List.append_assoc] at whole
    obtain ⟨path, behind⟩ := List.append_inj (split.symm.trans whole) (by omega)
    rw [behind, numbers?_eq_some_iff.mpr
      ⟨reports.number, reports.column, announced, announces, rfl⟩] at numbers
    rw [found]
    cases place
    cases shortest
    cases numbers
    cases path
    rfl

/-- No place is found exactly in lines that cannot be read as a report. -/
theorem search?_eq_none_iff :
    search? kind [] line = none ↔ ∀ place, ¬ Reports kind place line := by
  -- A report would be found, and what is found is one.
  constructor
  · intro nothing place reports
    obtain ⟨⟨nonempty, inside⟩, number, column, announced, announces, rfl⟩ := reports
    have begun : ([] : List Char).reverse ++ place.path ≠ [] := by simpa using nonempty
    obtain ⟨other, found, _⟩ := search?_complete inside begun
      (numbers?_eq_some_iff.mpr ⟨number, column, announced, announces, rfl⟩)
    rw [written, List.append_assoc, found] at nothing
    cases nothing
  · intro never
    rw [Option.eq_none_iff_forall_ne_some]
    exact fun place found => never place (search?_eq_some_iff.mp found).1

end SourcePlace

end Annotator

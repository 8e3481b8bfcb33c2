import Annotator.Proofs.Build.Report

/-! A line is a report of one kind at most, and its place is found again as it was written. -/

namespace Annotator

namespace Text

/-- A text is cut in one way only at the last of its colons. -/
theorem cut_at_last {front other : List Char} {back rest : List Char} {mark : Char}
    (same : front ++ mark :: back = other ++ mark :: rest) (last : mark ∉ back)
    (alsoLast : mark ∉ rest) : front = other ∧ back = rest := by
  -- If one front were longer than the other, the mark would occur behind the last one.
  rcases List.append_eq_append_iff.mp same with ⟨more, rfl, split⟩ | ⟨more, rfl, split⟩
  · cases more with
    | nil => simpa using split
    | cons c more =>
      obtain ⟨rfl, tail⟩ := List.cons.inj split
      exact absurd (by rw [tail]; simp) last
  · cases more with
    | nil => simpa using split.symm
    | cons c more =>
      obtain ⟨rfl, tail⟩ := List.cons.inj split
      exact absurd (by rw [tail]; simp) alsoLast

end Text

namespace SourcePlace

variable {kind other : DiagnosticKind} {line : List Char} {place : SourcePlace}

/-- The number that is written last. -/
def lastNumber (place : SourcePlace) : List Char :=
  -- The column may be missing.
  place.column.getD place.line

/-- What is written in front of the last number and its colons. -/
def front (place : SourcePlace) : List Char :=
  -- Behind a path with a line stands the column.
  match place.column with
  | none => place.path
  | some _ => place.path ++ ':' :: place.line

/-- What is written of a place ends in its last number, between two colons. -/
theorem written_eq (place : SourcePlace) :
    place.written = (place.front ++ ':' :: place.lastNumber) ++ [':'] := by
  -- The last number is the column if there is one, and the line otherwise.
  obtain ⟨path, number, column⟩ := place
  cases column <;> simp [written, writtenNumbers, front, lastNumber]

/-- The number that is written last is a number. -/
theorem Reports.lastNumber (reports : Reports kind place line) : IsNumber place.lastNumber := by
  -- It is the line or the column.
  unfold SourcePlace.lastNumber
  cases given : place.column with
  | none => exact reports.number
  | some column => exact reports.column column given

/-- A place is written without white space. -/
theorem Reports.written_nonblank (reports : Reports kind place line) :
    ∀ c ∈ place.written, isBlank c = false := by
  -- Paths have no blanks, and neither have digits and colons.
  have colon : isBlank ':' = false := by decide
  have digits {number : List Char} (isNumber : IsNumber number) (c : Char) (member : c ∈ number) :
      isBlank c = false := isBlank_of_isDecimalDigit (isNumber.2 c member)
  have ahead : ∀ c ∈ place.front, isBlank c = false := by
    -- In front of the last number stand the path and perhaps the line.
    intro c member
    unfold front at member
    split at member
    · exact reports.path.2 c member
    · rcases List.mem_append.mp member with inPath | behind
      · exact reports.path.2 c inPath
      · rcases List.mem_cons.mp behind with rfl | inLine
        · exact colon
        · exact digits reports.number c inLine
  intro c member
  rw [written_eq, List.mem_append, List.mem_append, List.mem_cons, List.mem_singleton] at member
  rcases member with (inFront | rfl | inLast) | rfl
  · exact ahead c inFront
  · exact colon
  · exact digits reports.lastNumber c inLast
  · exact colon

/--
All places that a line may be read with are written alike, and all announce one kind.

The first white space of the line is the space behind the place.
-/
theorem Reports.alike {also : SourcePlace} (reports : Reports kind place line)
    (reportsAlso : Reports other also line) : kind = other ∧ place.written = also.written := by
  -- Both places are the run of characters in front of the first blank.
  obtain ⟨announced, announces, whole⟩ := reports.announces
  obtain ⟨announcedAlso, announcesAlso, wholeAlso⟩ := reportsAlso.announces
  have run {place : SourcePlace} {kind : DiagnosticKind} (reads : Reports kind place line)
      (rest : List Char) (split : line = place.written ++ ' ' :: rest) :
      line.takeWhile (fun c => !isBlank c) = place.written ∧
        line.dropWhile (fun c => !isBlank c) = ' ' :: rest := by
    rw [split]
    apply Text.run_append
    · intro c member
      rw [reads.written_nonblank c member]
      rfl
    · rintro c ⟨⟩
      decide
  obtain ⟨taken, left⟩ := run reports announced whole
  obtain ⟨takenAlso, leftAlso⟩ := run reportsAlso announcedAlso wholeAlso
  have same : announced = announcedAlso := (List.cons.inj (left.symm.trans leftAlso)).2
  rw [← same] at announcesAlso
  exact ⟨announces.unique announcesAlso, taken.symm.trans takenAlso⟩

/-- One place is another one whose path takes in the line, so that the column counts as line. -/
def Absorbs (place short : SourcePlace) : Prop :=
  -- Such places are written alike.
  place.path = short.path ++ ':' :: short.line ∧ short.column = some place.line ∧
    place.column = none

/-- Places that are written alike are the same, unless one absorbs the other. -/
theorem Reports.cases_written {also : SourcePlace} (reports : Reports kind place line)
    (reportsAlso : Reports other also line) (same : place.written = also.written) :
    place = also ∨ place.Absorbs also ∨ also.Absorbs place := by
  -- Cutting off the last number leaves the fronts, which may be cut once more.
  rw [written_eq, written_eq] at same
  obtain ⟨front, last⟩ := Text.cut_at_last (List.append_cancel_right same)
    reports.lastNumber.no_colon reportsAlso.lastNumber.no_colon
  have clean := reports.number.no_colon
  have cleanAlso := reportsAlso.number.no_colon
  obtain ⟨path, number, column⟩ := place
  obtain ⟨pathAlso, numberAlso, columnAlso⟩ := also
  -- A number is cut off in front of the column as well, if both places have one.
  cases column with
  | none =>
    cases columnAlso with
    | none => exact .inl (congrArg₂ (SourcePlace.mk · · none) front last)
    | some digitsAlso => exact .inr (.inl ⟨front, congrArg some last.symm, rfl⟩)
  | some digits =>
    cases columnAlso with
    | none => exact .inr (.inr ⟨front.symm, congrArg some last, rfl⟩)
    | some digitsAlso =>
      obtain ⟨rfl, rfl⟩ := Text.cut_at_last front clean cleanAlso
      exact .inl (congrArg (SourcePlace.mk path number <| some ·) last)

/-- A report is read with a place that absorbs no other one. -/
theorem Reports.reads (reports : Reports kind place line)
    (alone : ∀ short, Reports kind short line → ¬ place.Absorbs short) :
    Reads kind place line := by
  -- Any other place is written alike, so it is the same one, or one of them absorbs the other.
  refine ⟨reports, fun also reportsAlso => ?_⟩
  have same := (reports.alike reportsAlso).2
  rcases reports.cases_written reportsAlso same with rfl | absorbs | absorbed
  · exact Nat.le_refl _
  · exact absurd absorbs (alone also reportsAlso)
  · -- A place that absorbs this one has a longer path.
    rw [absorbed.1, List.length_append]
    exact Nat.le_add_right _ _

end SourcePlace

namespace Diagnostic

variable {kind : DiagnosticKind} {line : List Char} {place : SourcePlace}

/-- A line is found to report about a place in just one kind. -/
theorem located?_eq_some_iff :
    located? line = some (.located kind place) ↔ SourcePlace.Reads kind place line := by
  -- The kinds are tried in turn, and no line reports in two of them.
  rw [← SourcePlace.search?_eq_some_iff]
  unfold located?
  constructor
  · intro found
    obtain ⟨other, _, searched⟩ := List.exists_of_findSome?_eq_some found
    obtain ⟨known, held, same⟩ := Option.map_eq_some_iff.mp searched
    cases same
    exact held
  · intro found
    have reports := (SourcePlace.search?_eq_some_iff.mp found).1
    -- Nothing is found in front of the right kind.
    have others (other : DiagnosticKind) (apart : other ≠ kind) :
        SourcePlace.search? other [] line = none := by
      rw [SourcePlace.search?_eq_none_iff]
      intro also reportsAlso
      exact apart (reportsAlso.alike reports).1
    cases kind with
    | error => simp [found]
    | warning => simp [found, others .error]
    | note => simp [found, others .error, others .warning]

/-- No line can be read as a report about a place in any kind. -/
def Unplaced (line : List Char) : Prop :=
  -- It may still contain the phrase of a report.
  ∀ kind place, ¬ SourcePlace.Reports kind place line

/-- Nothing is found about a place exactly in lines that cannot be read as reports about one. -/
theorem located?_eq_none_iff : located? line = none ↔ Unplaced line := by
  -- All three kinds are tried.
  unfold located?
  simp only [List.findSome?_eq_none_iff, Option.map_eq_none_iff, SourcePlace.search?_eq_none_iff]
  constructor
  · intro never kind
    exact never kind (by cases kind <;> decide)
  · intro never kind _
    exact never kind

/-- A report about a place is what a line reports, whatever else it contains. -/
theorem ofLine?_eq_located_iff :
    ofLine? line = some (.located kind place) ↔ SourcePlace.Reads kind place line := by
  -- The search for phrases gives no place, so the place comes from the search that goes first.
  rw [← located?_eq_some_iff, ofLine?]
  constructor
  · intro found
    rcases Option.or_eq_some_iff.mp found with located | ⟨_, bare⟩
    · exact located
    · obtain ⟨other, _, searched⟩ := List.exists_of_findSome?_eq_some bare
      obtain ⟨start, _, same⟩ := Option.map_eq_some_iff.mp searched
      cases same
  · intro located
    rw [located]
    rfl

/-- The phrases by which a line without a place is found to tell of an error. -/
def errorPhrases : List (List Char) :=
  -- A fatal error is found by the end of its phrase.
  ["error: ".toList, "undefined reference to ".toList, "sorry, unimplemented: ".toList]

/-- The phrases by which a line without a place is found to tell of a warning. -/
def warningPhrases : List (List Char) :=
  -- There is just one.
  ["warning: ".toList]

/-- Without a place the phrases of errors are sought first, and those of warnings only then. -/
theorem ofLine?_of_unplaced (unplaced : Unplaced line) :
    ofLine? line =
      ((Text.firstOffset? errorPhrases line).map (.bare .error)).or
        ((Text.firstOffset? warningPhrases line).map (.bare .warning)) := by
  -- With no place to be found, the phrases of errors are tried before those of warnings.
  have errors : DiagnosticKind.error.barePhrases.map String.toList = errorPhrases := rfl
  have warnings : DiagnosticKind.warning.barePhrases.map String.toList = warningPhrases := rfl
  rw [ofLine?, located?_eq_none_iff.mpr unplaced, Option.none_or, bare?]
  simp only [List.findSome?_cons, List.findSome?_nil, errors, warnings]
  -- The kinds are tried one after the other, as the alternatives are.
  cases Text.firstOffset? errorPhrases line with
  | some offset => rfl
  | none => cases Text.firstOffset? warningPhrases line <;> rfl

/-- Only a line without a place reports something else or nothing. -/
theorem unplaced_of_ofLine? (found : ∀ kind place, ofLine? line ≠ some (.located kind place)) :
    Unplaced line := by
  -- If a place were found, it would be what the line reports.
  rw [← located?_eq_none_iff]
  cases located : located? line with
  | none => rfl
  | some report =>
    have reported : ofLine? line = some report := by
      rw [ofLine?, located]
      rfl
    unfold located? at located
    obtain ⟨kind, _, searched⟩ := List.exists_of_findSome?_eq_some located
    obtain ⟨place, _, rfl⟩ := Option.map_eq_some_iff.mp searched
    exact absurd reported (found kind place)

end Diagnostic

end Annotator

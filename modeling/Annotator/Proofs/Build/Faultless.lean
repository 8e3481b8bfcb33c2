import Annotator.Build.Make
import Annotator.Proofs.Action.Reserved
import Annotator.Proofs.Hook.Faultless

/-! The build matcher is faultless, since paths are checked and numbers consist of digits. -/

namespace Annotator

/-- Decimal digits of any script are not reserved. -/
theorem isReserved_of_isDecimalDigit {c : Char} (digit : isDecimalDigit c = true) :
    isReserved c = false := by
  -- Neither delimiter is a digit of any script.
  rw [Bool.eq_false_iff]
  intro reserved
  have either : c = fieldDelimiter ∨ c = itemDelimiter := by simpa [isReserved] using reserved
  rcases either with rfl | rfl <;> exact absurd digit (by decide)

namespace SourcePlace

/-- The numbers of a place are written in digits. -/
structure Numeric (line : List Char) (column : Option (List Char)) : Prop where
  /-- The line is. -/
  line : ∀ c ∈ line, isDecimalDigit c = true
  /-- The column is, if it is given. -/
  column : ∀ digits, column = some digits → ∀ c ∈ digits, isDecimalDigit c = true

/-- A number is read from digits. -/
theorem number?_digits {text digits rest : List Char}
    (found : number? text = some (digits, rest)) : ∀ c ∈ digits, isDecimalDigit c = true := by
  -- The digits are the run that is taken from the front of the text.
  unfold number? at found
  dsimp only at found
  split at found
  · cases found
    intro c member
    exact List.all_eq_true.mp List.all_takeWhile c member
  · simp at found

/-- The numbers behind a path are read from digits. -/
theorem numbers?_numeric {kind : DiagnosticKind} {text line : List Char}
    {column : Option (List Char)} (found : numbers? kind text = some (line, column)) :
    Numeric line column := by
  -- The line is read first, up to the colon behind it.
  unfold numbers? at found
  split at found
  · split at found
    · simp at found
    · rename_i first behind counted
      dsimp only at found
      -- The column is read like the line, or there is none.
      cases second : number? behind with
      | none =>
        simp only [second] at found
        split at found
        · split at found
          · cases found
            exact ⟨number?_digits counted, fun digits same => by cases same⟩
          · simp at found
        · simp at found
      | some pair =>
        obtain ⟨digits, further⟩ := pair
        simp only [second] at found
        split at found
        · split at found
          · cases found
            exact ⟨number?_digits counted, fun other same => by
              cases same; exact number?_digits second⟩
          · simp at found
        · simp at found
  · simp at found

/-- The numbers of a place that is found are read from digits. -/
theorem search?_numeric {kind : DiagnosticKind} {path text : List Char} {place : SourcePlace}
    (found : search? kind path text = some place) : Numeric place.line place.column := by
  -- Induction on the text, with the path so far generalized.
  induction text generalizing path with
  | nil => simp [search?] at found
  | cons c rest ih =>
    unfold search? at found
    dsimp only at found
    split at found
    · -- A place is read right here, or the search goes on behind the next character.
      rename_i line column numbers
      split at numbers
      · simp at numbers
      · cases found
        exact numbers?_numeric numbers
    · split at found
      · simp at found
      · exact ih found

end SourcePlace

namespace Text

/-- A phrase is found behind a front of the text that fills the offset. -/
theorem firstOffset?_eq_some {phrases : List (List Char)} {text : List Char} {offset : Nat}
    (found : firstOffset? phrases text = some offset) :
    ∃ front back, text = front ++ back ∧ byteLength front = offset := by
  -- Induction on the text, where each character that is passed over joins the front.
  induction text generalizing offset with
  | nil =>
    unfold firstOffset? at found
    split at found
    · exact ⟨[], [], rfl, Option.some.inj found⟩
    · simp at found
  | cons c rest ih =>
    unfold firstOffset? at found
    split at found
    · exact ⟨[], c :: rest, rfl, Option.some.inj found⟩
    · -- Found further on, the phrase lies one more character from the front.
      obtain ⟨behind, later, rfl⟩ := Option.map_eq_some_iff.mp found
      obtain ⟨front, back, rfl, rfl⟩ := ih later
      exact ⟨c :: front, back, rfl, byteLength_cons c front⟩

end Text

namespace Diagnostic

/-- A line reports about a place that was found or about a phrase that starts in it. -/
theorem ofLine?_eq_some {line : List Char} {diagnostic : Diagnostic}
    (found : ofLine? line = some diagnostic) :
    (∃ kind place, diagnostic = .located kind place ∧
        SourcePlace.search? kind [] line = some place) ∨
      ∃ kind start, diagnostic = .bare kind start ∧
        Text.firstOffset? (kind.barePhrases.map String.toList) line = some start := by
  -- A place is preferred, and each search tries its kinds in order.
  rcases Option.or_eq_some_iff.mp found with located | ⟨_, bare⟩
  · obtain ⟨kind, _, searched⟩ := List.exists_of_findSome?_eq_some located
    obtain ⟨place, hit, rfl⟩ := Option.map_eq_some_iff.mp searched
    exact .inl ⟨kind, place, rfl, hit⟩
  · obtain ⟨kind, _, searched⟩ := List.exists_of_findSome?_eq_some bare
    obtain ⟨start, hit, rfl⟩ := Option.map_eq_some_iff.mp searched
    exact .inr ⟨kind, start, rfl, hit⟩

/-- A report about a place has its numbers in digits. -/
theorem ofLine?_located {line : List Char} {kind : DiagnosticKind} {place : SourcePlace}
    (found : ofLine? line = some (.located kind place)) :
    SourcePlace.Numeric place.line place.column := by
  -- Only the search for places gives one.
  rcases ofLine?_eq_some found with ⟨_, _, same, searched⟩ | ⟨_, _, same, _⟩
  · cases same
    exact SourcePlace.search?_numeric searched
  · cases same

/-- A report without a place starts between two characters of its line. -/
theorem ofLine?_bare {line : List Char} {kind : DiagnosticKind} {start : Nat}
    (found : ofLine? line = some (.bare kind start)) :
    ∃ front back, line = front ++ back ∧ Text.byteLength front = start := by
  -- Only the search for phrases gives an offset.
  rcases ofLine?_eq_some found with ⟨_, _, same, _⟩ | ⟨_, _, same, searched⟩
  · cases same
  · cases same
    exact Text.firstOffset?_eq_some searched

end Diagnostic

namespace Make

variable {site : Site} {launcher : String}

/-- The texts that the build matcher puts into actions without checking them. -/
structure Clean (site : Site) (launcher : String) : Prop where
  /-- The server is clean. -/
  server : hasReserved site.server = false
  /-- The terminal is clean. -/
  terminal : hasReserved site.terminal = false
  /-- The launcher is clean. -/
  launcher : hasReserved launcher = false

/-- The entry that copies a report is valid. -/
theorem copyEntry_valid (clean : Clean site launcher) (id : RegionId) :
    (copyEntry site id).Valid := by
  -- Its action has the number of the region and the terminal, of which only the latter is given.
  rw [copyEntry, MenuEntry.valid_ofAction, Action.validate_eq_ok_iff]
  simp +decide [Action.texts, Argument.texts, clean.terminal, hasReserved_repr]

/-- The action that opens a checked path at a place is valid. -/
theorem validate_openAction (clean : Clean site launcher) {path : String}
    (checked : hasReserved path = false) {place : SourcePlace}
    (numeric : SourcePlace.Numeric place.line place.column) :
    (openAction site launcher path place).validate = .ok () := by
  -- The numbers become texts with a letter and an equals sign in front of their digits.
  have line : hasReserved ("l=" ++ String.ofList place.line) = false := by
    rw [hasReserved_append, show hasReserved "l=" = false by decide, Bool.false_or,
      hasReserved_eq_false_iff, String.toList_ofList]
    intro c member
    exact isReserved_of_isDecimalDigit (numeric.line c member)
  have column : hasReserved ("c=" ++ String.ofList (place.column.getD ['1'])) = false := by
    rw [hasReserved_append, show hasReserved "c=" = false by decide, Bool.false_or,
      hasReserved_eq_false_iff, String.toList_ofList]
    intro c member
    -- A report without a column opens the first one.
    cases given : place.column with
    | none =>
      rw [given] at member
      rw [List.mem_singleton.mp member]
      decide
    | some digits =>
      rw [given] at member
      exact isReserved_of_isDecimalDigit (numeric.column digits given c member)
  rw [Action.validate_eq_ok_iff]
  simp +decide [openAction, Action.texts, Argument.texts, clean.launcher, clean.server, checked,
    line, column]

/-- What is offered for a report about a place is valid. -/
theorem validate_describeLocated (clean : Clean site launcher) (id : RegionId)
    (kind : DiagnosticKind) {path : String} (checked : hasReserved path = false)
    {place : SourcePlace} (numeric : SourcePlace.Numeric place.line place.column) :
    (describeLocated site launcher id kind path place).validate = .ok () := by
  -- The action that opens is there twice, and the entry that copies is the only other one.
  have opens := validate_openAction clean checked numeric
  rw [Metadata.validate_eq_ok_iff_parts]
  simp [describeLocated, opens, copyEntry_valid clean]

/-- What is offered for a report without a place is valid. -/
theorem validate_describeBare (clean : Clean site launcher) (id : RegionId)
    (kind : DiagnosticKind) : (describeBare site id kind).validate = .ok () := by
  -- Copying is all that is offered.
  rw [Metadata.validate_eq_ok_iff_parts]
  simp [describeBare, copyEntry_valid clean]

/-- What leads back to the first error is valid. -/
theorem validate_describeJump (firstError : RegionId) :
    (describeJump firstError).validate = .ok () := by
  -- The number of the first error is written in digits, and the rest is fixed.
  rw [Metadata.validate_eq_ok_iff_parts]
  simp +decide [describeJump, Action.validate_eq_ok_iff, Action.texts, Argument.texts, or_imp,
    forall_and, hasReserved_repr]

/-- Offering the way back on the current line is granted. -/
theorem offerJump_granted {scene : Scene} {line : LogicalLine} (current : scene.line = some line)
    (progress : Progress) :
    (offerJump line progress).Granted scene fun reply => ∃ flow, reply.answer = .ok flow := by
  -- Before the first error, and on lines that do not announce waiting, nothing is asked for.
  unfold offerJump
  cases progress.firstError with
  | none => exact ⟨_, rfl⟩
  | some firstError =>
    dsimp only
    split
    · -- The region takes in the whole line, which is always a sound span.
      exact ⟨⟨line, current, Scene.spanSound_whole line⟩, validate_describeJump firstError,
        fun id => ⟨_, rfl⟩⟩
    · exact ⟨_, rfl⟩

/-- The work on the current line is granted. -/
theorem onLine_granted (clean : Clean site launcher) {scene : Scene} {line : LogicalLine}
    (current : scene.line = some line) (progress : Progress) :
    (onLine site launcher line progress).Granted scene fun reply =>
      ∃ flow, reply.answer = .ok flow := by
  -- Each kind of report asks for a number and then for a region over the end of the line.
  unfold onLine
  cases found : Diagnostic.ofLine? line.text.toList with
  | none => exact offerJump_granted current progress
  | some diagnostic =>
    cases diagnostic with
    | located kind place =>
      dsimp only
      split
      · -- Nothing is asked for under a path with a delimiter.
        exact ⟨_, rfl⟩
      · -- The path is checked, and the numbers consist of digits.
        rename_i checked
        intro id
        refine ⟨⟨line, current, Scene.spanSound_whole line⟩, ?_, fun made => ⟨_, rfl⟩⟩
        exact validate_describeLocated clean id kind (by simpa using checked)
          (Diagnostic.ofLine?_located found)
    | bare kind start =>
      intro id
      -- The span runs from the phrase to the end of the line, and starts between characters.
      obtain ⟨front, back, split, rfl⟩ := Diagnostic.ofLine?_bare found
      exact ⟨⟨line, current, Scene.spanSound_back split⟩, validate_describeBare clean id kind,
        fun made => offerJump_granted current _⟩

/-- The work at the end is granted. -/
theorem onFinish_granted (scene : Scene) (totalRows : Nat) (progress : Progress) :
    (onFinish scene.view totalRows progress).Granted scene fun reply => reply.answer = .ok () := by
  -- Without an error, or when a report reaches the last row, nothing is asked for.
  unfold onFinish
  dsimp only
  cases progress.firstError with
  | none => rfl
  | some firstError =>
    dsimp only
    split
    · rename_i behind
      -- The last row that counts was received, and the region ends where it ends.
      have rows : min totalRows scene.view.rowCount ≤ scene.rows.size := Nat.min_le_right _ _
      refine ⟨⟨Scene.holds_rowStart (by omega), Scene.holdsEnd_rowStart rows, .inl ?_⟩,
        validate_describeJump firstError, fun id => rfl⟩
      exact Nat.sub_lt (by omega) Nat.one_pos
    · rfl

/-- The build machine is faultless when all it puts into actions unchecked is clean. -/
theorem machine_faultless (clean : Clean site launcher) : (machine site launcher).Faultless where
  -- Starting always succeeds, and each other hook has been shown to be granted.
  start _ _ := ⟨_, rfl⟩
  line _ _ progress current := by
    dsimp only [machine]
    exact onLine_granted clean current progress
  finish scene totalRows progress := onFinish_granted scene totalRows progress

/-- The factory of the build matcher is faultless under a clean launcher. -/
theorem factory_faultless (settings : MatcherSettings) {make : MakeSettings}
    (launcher : hasReserved make.editorLauncher = false) :
    (factory settings make).Faultless where
  -- Attaching cannot fail, and the site is clean where it is created.
  accepts _ _ := ⟨_, rfl⟩
  create _ clean _ := ⟨_, _, rfl, machine_faultless ⟨clean.server, clean.terminal, launcher⟩⟩

end Make

end Annotator

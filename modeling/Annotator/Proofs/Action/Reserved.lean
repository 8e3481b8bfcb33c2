import Annotator.Action.Command
import Annotator.Region.Metadata

/-! Actions are valid when none of the texts they are built from has a reserved character. -/

namespace Annotator

/-- A text is free of reserved characters when each of its characters is. -/
theorem hasReserved_eq_false_iff {text : String} :
    hasReserved text = false ↔ ∀ c ∈ text.toList, isReserved c = false := by
  -- The test looks at one character after the other.
  simp [hasReserved]

/-- Neither of the delimiters of a wire form occurs in a text. -/
structure Undelimited (text : String) : Prop where
  /-- No field ends in it. -/
  noField : '|' ∉ text.toList
  /-- No item of a list does. -/
  noItem : '\x1f' ∉ text.toList

/-- A text is free of reserved characters when neither delimiter occurs in it. -/
theorem hasReserved_eq_false_iff_undelimited {text : String} :
    hasReserved text = false ↔ Undelimited text := by
  -- The delimiters are reserved, and no character that differs from both of them is.
  rw [hasReserved_eq_false_iff]
  constructor
  · intro clean
    constructor
    · exact fun member => absurd (clean _ member) (by decide)
    · exact fun member => absurd (clean _ member) (by decide)
  · rintro ⟨noField, noItem⟩ c member
    change fieldDelimiter ∉ text.toList at noField
    change itemDelimiter ∉ text.toList at noItem
    have apart : c ≠ fieldDelimiter := fun same => noField (same ▸ member)
    have apartToo : c ≠ itemDelimiter := fun same => noItem (same ▸ member)
    simp [isReserved, apart, apartToo]

/-- Joined texts are free of reserved characters when both parts are. -/
theorem hasReserved_append {front back : String} :
    hasReserved (front ++ back) = (hasReserved front || hasReserved back) := by
  -- The characters of joined texts are those of the one and of the other.
  simp [hasReserved]

/-- Digits are not reserved. -/
theorem isReserved_of_isDigit {c : Char} (digit : c.isDigit = true) : isReserved c = false := by
  -- Neither delimiter is a digit.
  rw [Bool.eq_false_iff]
  intro reserved
  have either : c = fieldDelimiter ∨ c = itemDelimiter := by simpa [isReserved] using reserved
  rcases either with rfl | rfl <;> exact absurd digit (by decide)

/-- Written numbers are free of reserved characters. -/
theorem hasReserved_repr (number : Nat) : hasReserved number.repr = false := by
  -- A number is written in decimal digits.
  rw [hasReserved_eq_false_iff, Nat.toList_repr]
  intro c member
  exact isReserved_of_isDigit (Nat.isDigit_of_mem_toDigits (by decide) (by decide) member)

namespace Action

/-- An action is valid exactly when it has a name and no text with a reserved character. -/
theorem validate_eq_ok_iff {action : Action} :
    action.validate = .ok () ↔
      action.name ≠ "" ∧ ∀ text ∈ action.texts, hasReserved text = false := by
  -- A name is asked for first, and the texts only behind it.
  unfold validate
  by_cases unnamed : action.name.isEmpty = true
  · have empty : action.name = "" := String.isEmpty_iff.mp unnamed
    simp [empty]
  · have named : action.name ≠ "" := fun empty => unnamed (String.isEmpty_iff.mpr empty)
    rw [if_neg unnamed]
    -- Validation reports the first text with a reserved character, if there is one.
    cases found : action.texts.find? hasReserved with
    | none =>
      simp only [named, ne_eq, not_false_eq_true, true_and, true_iff]
      intro text member
      -- Nothing was found, so every text passes the test.
      simpa using List.find?_eq_none.mp found text member
    | some text =>
      have reserved := List.find?_some found
      have present := List.mem_of_find?_eq_some found
      simp only [reduceCtorEq, named, ne_eq, not_false_eq_true, true_and, false_iff]
      intro clean
      -- The text that was found fails the test that all of them were to pass.
      rw [clean text present] at reserved
      cases reserved

/-- A program line is free of reserved characters when the program and its arguments are. -/
theorem programLine_clean {program : String} {arguments : List String} :
    (∀ text ∈ programLine program arguments, hasReserved text = false) ↔
      hasReserved program = false ∧ ∀ text ∈ arguments, hasReserved text = false := by
  -- The program stands twice in its line, which asks for nothing new.
  simp [programLine]

variable {server program : String} {arguments : List String}

/-- A popup is valid when the server, the program and its arguments are clean. -/
@[simp] theorem validate_popup :
    (popup server program arguments).validate = .ok () ↔ hasReserved server = false ∧
      hasReserved program = false ∧ ∀ text ∈ arguments, hasReserved text = false := by
  -- What remains of the texts are the server and the program line.
  rw [validate_eq_ok_iff, ← programLine_clean]
  simp [popup, texts, Argument.texts, show hasReserved "PopupCommand" = false by decide]

/-- A background run is valid when the server, the program and its arguments are clean. -/
@[simp] theorem validate_background :
    (background server program arguments).validate = .ok () ↔ hasReserved server = false ∧
      hasReserved program = false ∧ ∀ text ∈ arguments, hasReserved text = false := by
  -- The texts are those of a popup under another name.
  rw [validate_eq_ok_iff, ← programLine_clean]
  simp [background, texts, Argument.texts, show hasReserved "RunCommand" = false by decide]

/-- A run in a terminal is valid when the server, the program and its arguments are clean. -/
@[simp] theorem validate_inTerminal :
    (inTerminal server program arguments).validate = .ok () ↔ hasReserved server = false ∧
      hasReserved program = false ∧ ∀ text ∈ arguments, hasReserved text = false := by
  -- The empty profile and the name of the action have no delimiter in them.
  rw [validate_eq_ok_iff, ← programLine_clean]
  simp [inTerminal, texts, Argument.texts, show hasReserved "CommandTerminal" = false by decide,
    show hasReserved "" = false by decide]

/-- A connection is valid when its type, its object and the server are clean. -/
@[simp] theorem validate_connect {type name : String} :
    (connect type name server).validate = .ok () ↔
      hasReserved type = false ∧ hasReserved name = false ∧ hasReserved server = false := by
  -- All three texts are plain values.
  rw [validate_eq_ok_iff]
  simp [connect, texts, Argument.texts, show hasReserved "NewConnection" = false by decide]

/-- An action with one more value is valid when the action and the value are. -/
@[simp] theorem validate_withValue {action : Action} {text : String} :
    (action.withValue text).validate = .ok () ↔
      action.validate = .ok () ∧ hasReserved text = false := by
  -- The texts of the longer action are those of the action and the value behind them.
  rw [validate_eq_ok_iff, validate_eq_ok_iff]
  simp [withValue, texts, Argument.texts, or_imp, forall_and, and_assoc]

end Action

end Annotator

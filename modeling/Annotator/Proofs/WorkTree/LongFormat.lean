import Annotator.Proofs.Text.Phrases
import Annotator.WorkTree.Status
import Mathlib.Data.List.Infix

/-!
A status command keeps the long format unless one of its options selects another. The fragments by
which such options are told also occur in the names of options that keep the long format.
-/

namespace Annotator

namespace ShellWords

/-- The modes in which a word is in progress. -/
def Mode.InWord : Mode → Prop
  -- A backslash between words may still come to nothing.
  | .bare | .escaped | .single | .double | .doubleEscaped => True
  | .between | .opening | .comment => False

/-- A word in progress is the front of the first word that is found. -/
theorem scan_front {mode : Mode} {word text : List Char} {words : List (List Char)}
    (inWord : mode.InWord) (scanned : scan mode word text = some words) :
    ∃ first others, words = first :: others ∧ word.reverse <+: first := by
  -- Of a word that has grown by characters, the part before is the front of the front.
  have grown (added : List Char) {word : List Char}
      (longer : ∃ first others, words = first :: others ∧ (added ++ word).reverse <+: first) :
      ∃ first others, words = first :: others ∧ word.reverse <+: first := by
    obtain ⟨first, others, rfl, front⟩ := longer
    rw [List.reverse_append] at front
    exact ⟨first, others, rfl, (List.prefix_append _ _).trans front⟩
  induction text generalizing mode word with
  | nil =>
    cases mode with
    | bare => exact ⟨word.reverse, [], (Option.some.inj scanned).symm, List.prefix_rfl⟩
    | escaped =>
      exact grown ['\\'] ⟨_, [], (Option.some.inj scanned).symm, List.prefix_rfl⟩
    | single | double | doubleEscaped => cases scanned
    | between | opening | comment => cases inWord
  | cons c rest ih =>
    cases mode with
    | bare =>
      simp only [scan] at scanned
      split_ifs at scanned
      · exact ih (by exact trivial) scanned
      · exact ih (by exact trivial) scanned
      · exact ih (by exact trivial) scanned
      · obtain ⟨others, -, rfl⟩ := Option.map_eq_some_iff.mp scanned
        exact ⟨word.reverse, others, rfl, List.prefix_rfl⟩
      · exact grown [c] (ih (by exact trivial) scanned)
    | escaped =>
      simp only [scan] at scanned
      split_ifs at scanned
      · exact ih (by exact trivial) scanned
      · exact grown [c] (ih (by exact trivial) scanned)
    | single =>
      simp only [scan] at scanned
      split_ifs at scanned
      · exact ih (by exact trivial) scanned
      · exact grown [c] (ih (by exact trivial) scanned)
    | double =>
      simp only [scan] at scanned
      split_ifs at scanned
      · exact ih (by exact trivial) scanned
      · exact ih (by exact trivial) scanned
      · exact grown [c] (ih (by exact trivial) scanned)
    | doubleEscaped =>
      simp only [scan] at scanned
      split_ifs at scanned
      · exact ih (by exact trivial) scanned
      · exact grown [c] (ih (by exact trivial) scanned)
      · exact grown [c, '\\'] (ih (by exact trivial) scanned)
    | between | opening | comment => cases inWord

/-- A word goes on with a word character. -/
theorem scan_bare_cons {c : Char} (goesOn : isWordChar c = true) (word rest : List Char) :
    scan .bare word (c :: rest) = scan .bare (c :: word) rest := by
  -- Quotes, the backslash and separators are no word characters.
  have ending : ∀ d ∈ ['\'', '"', '\\', ' ', '\t', '\n'], ¬ isWordChar d = true :=
    List.any_eq_false.mp (by decide)
  have apart : ∀ d ∈ ['\'', '"', '\\', ' ', '\t', '\n'], c ≠ d := by
    rintro d listed rfl
    exact ending c listed goesOn
  simp only [List.mem_cons, List.not_mem_nil, or_false, forall_eq_or_imp, forall_eq] at apart
  simp [scan, isSeparator, apart]

end ShellWords

namespace StatusCommand

/-- Options of the status command that stand by themselves. -/
inductive Switch
  /-- The short forms. -/
  | b | s | v | z
  /-- The long forms. -/
  | branch | short | verbose | long | showStash | aheadBehind | noAheadBehind | renames | noRenames
  deriving DecidableEq

/-- Options of the status command whose value may follow behind an equals sign. -/
inductive Setting
  /-- Their names say what is set. -/
  | untrackedFiles | ignored | ignoreSubmodules | findRenames | porcelain | column
  deriving DecidableEq

/-- An option as it is given to the status command. -/
inductive StatusOption
  /-- An option that stands by itself. -/
  | switch (name : Switch)
  /-- An option with its value, if it is given one. -/
  | setting (name : Setting) (value : Option (List Char))
  /-- The short form of the option for untracked files, with the mode right behind it. -/
  | untracked (mode : List Char)
  /-- Short options in one word, one of which selects another format. -/
  | cluster (letters : List Char) (selects : ∃ c ∈ letters, c ∈ ['s', 'v', 'z'])

/-- How a switch is written. -/
def Switch.spelled : Switch → List Char
  -- Long forms begin with two dashes.
  | .b => "-b".toList
  | .s => "-s".toList
  | .v => "-v".toList
  | .z => "-z".toList
  | .branch => "--branch".toList
  | .short => "--short".toList
  | .verbose => "--verbose".toList
  | .long => "--long".toList
  | .showStash => "--show-stash".toList
  | .aheadBehind => "--ahead-behind".toList
  | .noAheadBehind => "--no-ahead-behind".toList
  | .renames => "--renames".toList
  | .noRenames => "--no-renames".toList

/-- How a setting is written without its value. -/
def Setting.spelled : Setting → List Char
  -- There are no short forms.
  | .untrackedFiles => "--untracked-files".toList
  | .ignored => "--ignored".toList
  | .ignoreSubmodules => "--ignore-submodules".toList
  | .findRenames => "--find-renames".toList
  | .porcelain => "--porcelain".toList
  | .column => "--column".toList

/-- A text in which one of the fragments occurs that are taken for another format. -/
def Fragmented (text : List Char) : Prop :=
  -- Three of the fragments are single letters.
  Text.OccursAny (otherFormats.map String.toList) text

instance : DecidablePred Fragmented := fun text =>
  decidable_of_iff (∃ fragment ∈ otherFormats.map String.toList, Text.contains fragment text = true)
    (exists_congr fun _ => and_congr_right fun _ => Text.contains_iff)

namespace StatusOption

/-- How an option is written. -/
def spelled : StatusOption → List Char
  -- Only the value of a setting is set apart.
  | switch name => name.spelled
  | setting name none => name.spelled
  | setting name (some value) => name.spelled ++ '=' :: value
  | untracked mode => "-u".toList ++ mode
  | cluster letters _ => '-' :: letters

/-- The status is written in the long format in spite of an option. -/
def KeepsLongFormat : StatusOption → Prop
  -- The other options write short lines, fields, columns or changes.
  | switch name => name ∉ [.s, .v, .z, .short, .verbose]
  | setting name _ => name ∉ [.porcelain, .column]
  | untracked _ => True
  | cluster .. => False

/-- An option that keeps the long format is mistaken for one that selects another. -/
def Mistaken : StatusOption → Prop
  -- The letter of the short format occurs in six names.
  | switch name => name ∈ [.showStash, .renames, .noRenames]
  | setting name value =>
    name ∈ [.untrackedFiles, .ignoreSubmodules, .findRenames] ∨ ∃ text ∈ value, Fragmented text
  | untracked mode => Fragmented mode
  | cluster .. => False

instance : DecidablePred KeepsLongFormat
  | switch name => inferInstanceAs (Decidable (name ∉ _))
  | setting name _ => inferInstanceAs (Decidable (name ∉ _))
  | untracked _ => inferInstanceAs (Decidable True)
  | cluster .. => inferInstanceAs (Decidable False)

instance : DecidablePred Mistaken
  | switch name => inferInstanceAs (Decidable (name ∈ _))
  | setting name value =>
    inferInstanceAs (Decidable (name ∈ _ ∨ ∃ text ∈ value, Fragmented text))
  | untracked mode => inferInstanceAs (Decidable (Fragmented mode))
  | cluster .. => inferInstanceAs (Decidable False)

end StatusOption

/-- A word behind the name of the status command. -/
inductive StatusWord
  /-- A word that is no option, such as a path. -/
  | operand (text : List Char) (plain : text.head? ≠ some '-')
  /-- An option. -/
  | option (chosen : StatusOption)

/-- How a word is written, without quotes. -/
def StatusWord.spelled : StatusWord → List Char
  -- Operands are written as they are.
  | operand text _ => text
  | option chosen => chosen.spelled

/-- A word is taken for another format if it begins with a dash and has a fragment in it. -/
theorem leavesLongFormat_iff {word : List Char} :
    leavesLongFormat word = true ↔ word.head? = some '-' ∧ Fragmented word := by
  -- A dashed word is searched for each of the fragments.
  simp [leavesLongFormat, Fragmented, Text.OccursAny, Text.contains_iff]

/-- No fragment reaches across the equals sign in front of a value. -/
theorem fragmented_value_iff {name value : List Char} :
    Fragmented (name ++ '=' :: value) ↔ Fragmented name ∨ Fragmented value := by
  -- No fragment holds the mark, so each lies on one of its sides.
  have unmarked : ∀ fragment ∈ otherFormats.map String.toList, '=' ∉ fragment := by decide
  simp only [Fragmented, Text.OccursAny, ← exists_or, ← and_or_left]
  exact exists_congr fun fragment => and_congr_right fun listed =>
    Text.infix_mark_iff (unmarked fragment listed)

/-- No fragment begins in the option in front of a mode. -/
theorem fragmented_mode_iff {mode : List Char} :
    Fragmented ("-u".toList ++ mode) ↔ Fragmented mode := by
  -- No fragment starts with the dash or the letter in front of the mode.
  have atDash : ¬ Text.StartsAny (otherFormats.map String.toList) ('-' :: 'u' :: mode) := by
    rw [← Text.any_isPrefixOf_iff]
    simp [otherFormats]
  have atLetter : ¬ Text.StartsAny (otherFormats.map String.toList) ('u' :: mode) := by
    rw [← Text.any_isPrefixOf_iff]
    simp [otherFormats]
  have split : "-u".toList ++ mode = '-' :: 'u' :: mode := rfl
  rw [split, Fragmented, Text.occursAny_cons, or_iff_right atDash, Text.occursAny_cons,
    or_iff_right atLetter, Fragmented]

/-- A switch is taken for another format if it selects one or has the letter of one in its name. -/
theorem leavesLongFormat_switch (name : Switch) :
    leavesLongFormat name.spelled = true ↔
      name ∈ [.s, .v, .z, .short, .verbose] ∨ name ∈ [.showStash, .renames, .noRenames] := by
  -- One case for each switch.
  cases name <;> decide

/-- Of all settings only the one for ignored files has no fragment in its name. -/
theorem leavesLongFormat_setting (name : Setting) :
    leavesLongFormat name.spelled = true ↔ name ≠ .ignored := by
  -- One case for each setting.
  cases name <;> decide

/-- An option is taken for one that selects another format if it is one or is mistaken for one. -/
theorem StatusOption.leavesLongFormat_iff (option : StatusOption) :
    leavesLongFormat option.spelled = true ↔ ¬ (option.KeepsLongFormat ∧ ¬ option.Mistaken) := by
  -- One case for each form of an option, and the settings with a value apart.
  cases option with
  | switch name =>
    rw [spelled, leavesLongFormat_switch, KeepsLongFormat, Mistaken, not_and_not_right,
      ← or_iff_not_imp_left]
  | setting name value =>
    have dashed : ∀ rest, (name.spelled ++ rest).head? = some '-' := by
      intro rest
      cases name <;> rfl
    have fragmented : Fragmented name.spelled ↔ name ≠ .ignored := by
      have named := leavesLongFormat_setting name
      rwa [StatusCommand.leavesLongFormat_iff, ← List.append_nil name.spelled, dashed,
        eq_self, true_and, List.append_nil] at named
    cases value with
    | none =>
      rw [spelled, leavesLongFormat_setting, KeepsLongFormat, Mistaken]
      cases name <;> simp
    | some value =>
      rw [spelled, StatusCommand.leavesLongFormat_iff, dashed, fragmented_value_iff, fragmented,
        KeepsLongFormat, Mistaken]
      cases name <;> simp
  | untracked mode =>
    have dashed : ("-u".toList ++ mode).head? = some '-' := rfl
    rw [spelled, StatusCommand.leavesLongFormat_iff, dashed, fragmented_mode_iff, KeepsLongFormat,
      Mistaken, eq_self, true_and, true_and, not_not]
  | cluster letters selects =>
    obtain ⟨c, member, selecting⟩ := selects
    have listed : ∀ d ∈ ['s', 'v', 'z'], [d] ∈ otherFormats.map String.toList := by
      simp [otherFormats]
    have fragment : [c] ∈ otherFormats.map String.toList := listed c selecting
    have found : Fragmented ('-' :: letters) :=
      ⟨[c], fragment, (List.singleton_infix_iff c _).mpr (List.mem_cons_of_mem _ member)⟩
    simp [spelled, StatusCommand.leavesLongFormat_iff, found, KeepsLongFormat]

/-- The words of the status command begin where it begins, so that it is recognized. -/
theorem recognizes_of_split {command : String} {words : List (List Char)}
    (front : "git status".toList <+: command.toList)
    (split : ShellWords.split? command.toList =
      some ("git".toList :: "status".toList :: words)) :
    recognizes command = true := by
  -- The first two words are read off the front, so the scan goes on from the middle of the second.
  obtain ⟨rest, same⟩ := front
  rw [← same] at split
  have scanned : ShellWords.split? ("git status".toList ++ rest) =
      (ShellWords.scan .bare "status".toList.reverse rest).map ("git".toList :: ·) := rfl
  rw [scanned] at split
  obtain ⟨others, inWord, found⟩ := Option.map_eq_some_iff.mp split
  obtain ⟨-, rfl⟩ := List.cons.inj found
  have ends : ∀ c ∈ rest.head?, isWordChar c = false := by
    intro c next
    by_contra goesOn
    rw [Bool.not_eq_false] at goesOn
    obtain ⟨later, rfl⟩ := List.head?_eq_some_iff.mp next
    -- The second word would be longer than it is.
    rw [ShellWords.scan_bare_cons goesOn] at inWord
    have going : ShellWords.Mode.bare.InWord := trivial
    obtain ⟨first, _, split, longer⟩ := ShellWords.scan_front going inWord
    obtain ⟨rfl, -⟩ := List.cons.inj split
    have tooLong := longer.length_le
    simp at tooLong
  rw [recognizes, ← same, Bool.and_eq_true, Bool.not_eq_true', Option.any_eq_false,
    Text.startsWith, List.isPrefixOf_iff_prefix, List.drop_left]
  exact ⟨List.prefix_append _ _, ends⟩

/-- A command is in the long format if none of its options is taken for another format. -/
theorem isLongFormat_iff {command : String} {words : List StatusWord}
    (split : ShellWords.split? command.toList =
      some ("git".toList :: "status".toList :: words.map StatusWord.spelled)) :
    isLongFormat command = true ↔
      ∀ option, .option option ∈ words → option.KeepsLongFormat ∧ ¬ option.Mistaken := by
  -- The words are searched one by one, and neither of the first two is dashed.
  have found : StatusCommand.words command =
      "git".toList :: "status".toList :: words.map StatusWord.spelled := by
    rw [StatusCommand.words, split]
  have names : leavesLongFormat "git".toList = false ∧
      leavesLongFormat "status".toList = false := by decide
  rw [isLongFormat, found, List.any_cons, List.any_cons, names.1, names.2, Bool.false_or,
    Bool.false_or, Bool.not_eq_true', List.any_map, List.any_eq_false]
  constructor
  · intro kept option listed
    have passes := kept _ listed
    rwa [Function.comp_apply, StatusWord.spelled, option.leavesLongFormat_iff, not_not] at passes
  · intro kept word listed
    cases word with
    | operand text plain => simp [StatusWord.spelled, leavesLongFormat_iff, plain]
    | option option =>
      rw [Function.comp_apply, StatusWord.spelled, option.leavesLongFormat_iff, not_not]
      exact kept option listed

end StatusCommand

open StatusCommand in
/--
The status matcher attaches to a status command exactly if all its options keep the long format
and none of them is mistaken for one that does not.

Six options that keep the long format are mistaken because of the letter s in their names.
-/
theorem attaches_to_long_format {settings : MatcherSettings} {command workingDir : String}
    {words : List StatusWord} (front : "git status".toList <+: command.toList)
    (split : ShellWords.split? command.toList =
      some ("git".toList :: "status".toList :: words.map StatusWord.spelled))
    (plain : hasReserved workingDir = false) :
    (WorkTree.factory settings).accepts command workingDir = .ok true ↔
      ∀ option, .option option ∈ words → option.KeepsLongFormat ∧ ¬ option.Mistaken := by
  -- The command is recognized and the directory is clean, so the options decide.
  rw [← isLongFormat_iff split]
  simp [WorkTree.factory, accepts, recognizes_of_split front split, plain]

open StatusCommand in
/-- The modes that there are for untracked and for ignored files are not mistaken. -/
example :
    (∀ mode ∈ ["", "no", "normal", "all"], ¬ (StatusOption.untracked mode.toList).Mistaken) ∧
      ∀ mode ∈ ["traditional", "no", "matching"],
        ¬ (StatusOption.setting .ignored (some mode.toList)).Mistaken := by
  decide

open StatusCommand in
/-- Options are recognized in quotes too, and paths are no options. -/
theorem attaches_to_long_format_quoted :
    let command := "git status -b '--ignored=matching' s/v/z"
    let words : List StatusWord :=
      [.option (.switch .b), .option (.setting .ignored (some "matching".toList)),
        .operand "s/v/z".toList (by decide)]
    "git status".toList <+: command.toList ∧
      ShellWords.split? command.toList =
        some ("git".toList :: "status".toList :: words.map StatusWord.spelled) ∧
      hasReserved "/w" = false ∧ (WorkTree.factory {}).accepts command "/w" = .ok true := by
  -- The option is quoted, and the operand holds the letters without being dashed.
  intro command words
  have front : "git status".toList <+: command.toList := by decide
  have split : ShellWords.split? command.toList =
      some ("git".toList :: "status".toList :: words.map StatusWord.spelled) := by decide
  have plain : hasReserved "/w" = false := by decide
  refine ⟨front, split, plain, (attaches_to_long_format front split plain).mpr ?_⟩
  intro option listed
  simp only [words, List.mem_cons, List.not_mem_nil, or_false, StatusWord.option.injEq,
    reduceCtorEq] at listed
  rcases listed with rfl | rfl
  · decide
  · decide

open StatusCommand in
/-- The option for untracked files keeps the long format, and still no matcher attaches. -/
theorem untracked_files_mistaken :
    let command := "git status --untracked-files=no"
    let option : StatusOption := .setting .untrackedFiles (some "no".toList)
    ShellWords.split? command.toList =
        some ["git".toList, "status".toList, option.spelled] ∧
      option.KeepsLongFormat ∧ (WorkTree.factory {}).accepts command "/w" = .ok false := by
  -- The letter is found inside the name of the option.
  intro command option
  exact ⟨by decide, by decide, by decide⟩

end Annotator

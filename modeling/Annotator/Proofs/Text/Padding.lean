import Annotator.Action.Basic
import Annotator.Invocation
import Annotator.Proofs.Text.Runs
import Annotator.Text.Blank

/-!
Trimming removes exactly the blanks around a text, and closing a directory removes exactly the
slashes at its end, so that what they leave does not depend on how many there are.
-/

namespace Annotator

namespace Text

/-- A text is a core with blanks around it. -/
def Pads (text core : List Char) : Prop :=
  -- There may be none on either side.
  ∃ before behind, text = before ++ core ++ behind ∧ (∀ c ∈ before, isBlank c = true) ∧
    ∀ c ∈ behind, isBlank c = true

/-- A core has no blank at either end. -/
def Bare (core : List Char) : Prop :=
  -- The empty text has no ends.
  (∀ c ∈ core.head?, isBlank c = false) ∧ ∀ c ∈ core.getLast?, isBlank c = false

/-- Characters of a class at the end of a text do not change what is left without them. -/
theorem dropBack_append (holds : Char → Bool) (front : List Char) {run : List Char}
    (inside : ∀ c ∈ run, holds c = true) :
    ((front ++ run).reverse.dropWhile holds).reverse = (front.reverse.dropWhile holds).reverse := by
  -- Seen from the back, the run is what is dropped first.
  rw [List.reverse_append, List.dropWhile_append_of_pos]
  intro c member
  exact inside c (List.mem_reverse.mp member)

/-- Every text is a front that does not end in a class of characters, and characters of it. -/
theorem exists_back (holds : Char → Bool) (text : List Char) :
    ∃ front run, text = front ++ run ∧ (∀ c ∈ run, holds c = true) ∧
      (∀ c ∈ front.getLast?, holds c = false) ∧
      (text.reverse.dropWhile holds).reverse = front := by
  -- The back of a text is the front of the reversed text.
  obtain ⟨run, rest, split, inside, ends, -, left⟩ := exists_run holds text.reverse
  refine ⟨rest.reverse, run.reverse, ?_, fun c member => ?_, fun c last => ?_, by rw [left]⟩
  · rw [← List.reverse_append, ← split, List.reverse_reverse]
  · exact inside c (List.mem_reverse.mp member)
  · rw [List.getLast?_reverse] at last
    exact ends c last

/-- Blanks in front of a text are removed. -/
theorem trimStart_append {before : List Char} (blank : ∀ c ∈ before, isBlank c = true)
    (text : List Char) : trimStart (before ++ text) = trimStart text :=
  -- Blanks in front are dropped.
  List.dropWhile_append_of_pos blank

/-- Blanks behind a text are removed. -/
theorem trimEnd_append (text : List Char) {behind : List Char}
    (blank : ∀ c ∈ behind, isBlank c = true) : trimEnd (text ++ behind) = trimEnd text :=
  -- Blanks at the end are dropped.
  dropBack_append isBlank text blank

/-- Trimming leaves nothing of a text exactly when all of it is blank. -/
theorem trim_eq_nil_iff {text : List Char} :
    trim text = [] ↔ ∀ c ∈ text, isBlank c = true := by
  -- What trimming leaves would begin and end with characters that are not blank.
  rw [← List.dropWhile_eq_nil_iff]
  constructor
  · intro empty
    -- What is left in front of the end does not begin blank, so its end cannot take all of it.
    obtain ⟨_, rest, _, _, ends, _, left⟩ := exists_run isBlank text
    rw [trim, trimEnd, List.reverse_eq_nil_iff, List.dropWhile_eq_nil_iff, trimStart, left] at empty
    rw [left]
    cases rest with
    | nil => rfl
    | cons c rest =>
      have blank := empty c (by simp)
      rw [ends c rfl] at blank
      cases blank
  · intro empty
    rw [trim, trimStart, empty]
    rfl

/-- A text is trimmed as its core is. -/
theorem Pads.trim_eq {text core : List Char} (pads : Pads text core) : trim text = trim core := by
  -- The blanks in front go with those of the core, and so do those behind it.
  obtain ⟨before, behind, rfl, blankBefore, blankBehind⟩ := pads
  rw [List.append_assoc, trim, trimStart_append blankBefore, trim]
  by_cases blank : ∀ c ∈ core, isBlank c = true
  · -- Between blanks a blank core is one more of them.
    have all : ∀ c ∈ core ++ behind, isBlank c = true := fun c member =>
      (List.mem_append.mp member).elim (blank c) (blankBehind c)
    exact (trim_eq_nil_iff.mpr all).trans (trim_eq_nil_iff.mpr blank).symm
  · have kept : core.dropWhile isBlank ≠ [] := mt List.dropWhile_eq_nil_iff.mp blank
    have onward : trimStart (core ++ behind) = trimStart core ++ behind := by
      rw [trimStart, List.dropWhile_append, if_neg (mt List.isEmpty_iff.mp kept)]
      rfl
    rw [onward, trimEnd_append _ blankBehind]

/-- A text is what trimming leaves of it with blanks around. -/
theorem pads_trim (text : List Char) : Pads text (trim text) := by
  -- What is dropped at either end is blank.
  obtain ⟨before, rest, split, blankBefore, -, -, left⟩ := exists_run isBlank text
  obtain ⟨front, behind, back, blankBehind, -, kept⟩ := exists_back isBlank rest
  refine ⟨before, behind, ?_, blankBefore, blankBehind⟩
  rw [trim, trimStart, left, trimEnd, kept, List.append_assoc, ← back, ← split]

/-- Trimming leaves no blank at either end. -/
theorem bare_trim (text : List Char) : Bare (trim text) := by
  -- Dropping stops at a character that is not blank, on either side.
  obtain ⟨before, rest, -, -, starts, -, left⟩ := exists_run isBlank text
  obtain ⟨front, behind, back, -, ends, kept⟩ := exists_back isBlank rest
  rw [trim, trimStart, left, trimEnd, kept]
  refine ⟨fun c first => starts c ?_, ends⟩
  rw [back, List.head?_append, Option.mem_def.mp first]
  rfl

end Text

/-- A string is blank exactly when trimming leaves nothing of it. -/
theorem trimmed_eq_empty_iff {text : String} : trimmed text = "" ↔ isBlankText text = true := by
  -- Trimming leaves nothing when there is nothing but blanks.
  rw [← String.toList_inj, trimmed, String.toList_ofList, isBlankText, List.all_eq_true]
  exact Text.trim_eq_nil_iff

/-- Two strings are the same but for white space around them. -/
def SameCore (one other : String) : Prop :=
  -- Either may have less of it than the other.
  ∃ core, Text.Pads one.toList core ∧ Text.Pads other.toList core

/-- Every string is the same as itself. -/
theorem SameCore.refl (text : String) : SameCore text text :=
  -- The text pads itself with nothing.
  ⟨text.toList, ⟨[], [], by simp⟩, ⟨[], [], by simp⟩⟩

/-- Strings that are the same but for white space around them are trimmed alike. -/
theorem SameCore.trimmed_eq {one other : String} (same : SameCore one other) :
    trimmed one = trimmed other := by
  -- Both are trimmed to what remains of the core.
  obtain ⟨core, first, second⟩ := same
  rw [trimmed, trimmed, first.trim_eq, second.trim_eq]

/-- Two directories are the same but for the number of slashes at their ends. -/
def SameDirs (one other : String) : Prop :=
  -- A directory of slashes alone is the same as none.
  ∃ front first second, one.toList = front ++ List.replicate first '/' ∧
    other.toList = front ++ List.replicate second '/'

/-- Every directory is the same as itself. -/
theorem SameDirs.refl (dir : String) : SameDirs dir dir :=
  -- No slashes are added on either side.
  ⟨dir.toList, 0, 0, by simp⟩

namespace Site

/-- A directory is closed by one slash in place of all those at its end. -/
theorem exists_closeDir (dir : String) :
    ∃ front slashes, dir.toList = front ++ List.replicate slashes '/' ∧
      front.getLast? ≠ some '/' ∧ (closeDir dir).toList = front ++ ['/'] := by
  -- All slashes at the end are replaced by one.
  obtain ⟨front, run, split, inside, ends, left⟩ := Text.exists_back (· == '/') dir.toList
  have slashes : run = List.replicate run.length '/' :=
    List.eq_replicate_iff.mpr ⟨rfl, fun c member => beq_iff_eq.mp (inside c member)⟩
  refine ⟨front, run.length, slashes ▸ split, fun last => ?_, ?_⟩
  · simpa using ends '/' last
  · rw [closeDir, String.toList_ofList, left]

/-- Directories that are the same but for slashes at their ends are closed alike. -/
theorem closeDir_eq {one other : String} (same : SameDirs one other) :
    closeDir one = closeDir other := by
  -- The slashes at the end are dropped, however many there are.
  obtain ⟨front, first, second, left, right⟩ := same
  have slashes (count : Nat) : ∀ c ∈ List.replicate count '/', (c == '/') = true :=
    fun c member => beq_iff_eq.mpr (List.eq_of_mem_replicate member)
  rw [closeDir, closeDir, left, right, Text.dropBack_append _ front (slashes first),
    Text.dropBack_append _ front (slashes second)]

/-- Closing a directory neither adds nor removes a reserved character. -/
theorem hasReserved_closeDir (dir : String) : hasReserved (closeDir dir) = hasReserved dir := by
  -- Both are the front of the directory with slashes behind it, which are not reserved.
  obtain ⟨front, slashes, split, -, closed⟩ := exists_closeDir dir
  have free : isReserved '/' = false := by decide
  rw [hasReserved, hasReserved, closed, split, List.any_append, List.any_append]
  simp [free]

end Site

end Annotator

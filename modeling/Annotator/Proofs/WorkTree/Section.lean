import Annotator.WorkTree.Section
import Mathlib.Data.List.Induction

/-! Every line stands in the section that the last heading up to it opened. -/

namespace Annotator

namespace Section

/-- A line opens a section when its heading stands at the start of the line. -/
def Opens (part : Section) (line : List Char) : Prop :=
  -- White space in front of the heading does not count.
  part.heading.toList <+: Text.trimStart line

/-- No heading begins with another one. -/
theorem eq_of_begins_heading {part other : Section}
    (front : part.heading.toList <+: other.heading.toList) : part = other := by
  -- The headings are known, and none begins another.
  revert front
  cases part <;> cases other <;> decide

/-- The section that a line is found to open is the one whose heading it starts with. -/
theorem ofHeading?_eq_some_iff {line : List Char} {part : Section} :
    ofHeading? line = some part ↔ part.Opens line := by
  -- Searching finds the first heading that the line begins with, so it must be the only one.
  have starts (other : Section) :
      Text.startsWith other.heading.toList (Text.trimStart line) = true ↔ other.Opens line :=
    List.isPrefixOf_iff_prefix
  have finds {other : Section} (found : ofHeading? line = some other) : other.Opens line := by
    unfold ofHeading? at found
    have held := List.find?_some found
    exact (starts other).mp held
  constructor
  · exact finds
  · intro opens
    cases found : ofHeading? line with
    | none =>
      have member : part ∈ all := by cases part <;> decide
      exact absurd ((starts part).mpr opens) (List.find?_eq_none.mp found part member)
    | some other =>
      -- Of two headings of one line one would be the front of the other.
      have opened := finds found
      rcases List.prefix_or_prefix_of_prefix opened opens with front | front
      · rw [eq_of_begins_heading front]
      · rw [eq_of_begins_heading front]

/-- No heading is found exactly in a line that opens no section. -/
theorem ofHeading?_eq_none_iff {line : List Char} :
    ofHeading? line = none ↔ ∀ part : Section, ¬ part.Opens line := by
  -- A heading is found when its section is opened.
  rw [Option.eq_none_iff_forall_ne_some]
  exact forall_congr' fun part => not_congr ofHeading?_eq_some_iff

/-- The last of some lines that opens a section opens this one. -/
def Governs (lines : List (List Char)) (part : Section) : Prop :=
  -- Lines in front of it may open any sections.
  ∃ front line back, lines = front ++ line :: back ∧ part.Opens line ∧
    ∀ later ∈ back, ∀ other : Section, ¬ other.Opens later

/-- A line governs if it opens a section, and otherwise leaves that to the lines before it. -/
theorem governs_concat {lines : List (List Char)} {line : List Char} {part : Section} :
    Governs (lines ++ [line]) part ↔
      part.Opens line ∨ (∀ other : Section, ¬ other.Opens line) ∧ Governs lines part := by
  -- The last line opens the section, or it opens none and leaves the section as it was.
  constructor
  · rintro ⟨front, first, back, split, begins, passed⟩
    rcases List.eq_nil_or_concat back with rfl | ⟨between, last, rfl⟩
    · obtain ⟨_, same⟩ := List.append_inj' split rfl
      cases same
      exact .inl begins
    · rw [List.concat_eq_append, ← List.cons_append, ← List.append_assoc] at split
      obtain ⟨rest, same⟩ := List.append_inj' split rfl
      cases same
      exact .inr ⟨passed line (by simp), front, first, between, rest, begins,
        fun later member => passed later (by simp [member])⟩
  · rintro (opens | ⟨opensNothing, front, first, back, rfl, begins, passed⟩)
    · exact ⟨lines, line, [], rfl, opens, by simp⟩
    · refine ⟨front, first, back ++ [line], by simp, begins, fun later member => ?_⟩
      rcases List.mem_append.mp member with behind | last
      · exact passed later behind
      · exact List.mem_singleton.mp last ▸ opensNothing

/-- The section behind some lines, given the one in front of them. -/
def after (current : Option Section) (lines : List (List Char)) : Option Section :=
  -- A line that opens no section leaves it as it was.
  lines.foldl (fun current line => (ofHeading? line).or current) current

/-- The last line has the last word. -/
theorem after_concat (current : Option Section) (lines : List (List Char)) (line : List Char) :
    after current (lines ++ [line]) = (ofHeading? line).or (after current lines) := by
  -- The lines are passed from the left.
  rw [after, List.foldl_append]
  rfl

/-- The section behind some lines is the one that governs them. -/
theorem after_eq_some_iff {lines : List (List Char)} {part : Section} :
    after none lines = some part ↔ Governs lines part := by
  -- Induction on the lines from their end, as the last heading counts.
  induction lines using List.reverseRecOn with
  | nil => simp [after, Governs]
  | append_singleton lines line ih =>
    rw [after_concat, governs_concat, ← ofHeading?_eq_none_iff, ← ofHeading?_eq_some_iff, ← ih]
    cases ofHeading? line with
    | some other => simp
    | none => simp

end Section

end Annotator

import Mathlib.Data.List.TakeWhile

/-! A run is the longest front of a text all of whose characters are of one class. -/

namespace Annotator

namespace Text

/-- A run that fills the front of a text and ends there is split off. -/
theorem run_append (holds : Char → Bool) {run rest : List Char}
    (inside : ∀ c ∈ run, holds c = true) (ends : ∀ c ∈ rest.head?, holds c = false) :
    (run ++ rest).takeWhile holds = run ∧ (run ++ rest).dropWhile holds = rest := by
  -- The run is taken whole, and the next character stops it.
  rw [List.takeWhile_append_of_pos inside, List.dropWhile_append_of_pos inside]
  cases rest with
  | nil => simp
  | cons c rest =>
    have stops : holds c = false := ends c rfl
    simp [stops]

/-- Every text is a run followed by a rest that does not go on with it. -/
theorem exists_run (holds : Char → Bool) (text : List Char) :
    ∃ run rest, text = run ++ rest ∧ (∀ c ∈ run, holds c = true) ∧
      (∀ c ∈ rest.head?, holds c = false) ∧ text.takeWhile holds = run ∧
        text.dropWhile holds = rest := by
  -- The run is what is taken from the front.
  refine ⟨_, _, List.takeWhile_append_dropWhile.symm, fun c member => ?_, fun c first => ?_, rfl,
    rfl⟩
  · exact List.all_eq_true.mp List.all_takeWhile c member
  · have stops := List.head?_dropWhile_not holds text
    rw [Option.mem_def.mp first] at stops
    exact stops

end Text

end Annotator

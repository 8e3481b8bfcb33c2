import Annotator.Proofs.Build.Faultless
import Annotator.Proofs.Build.Place
import Annotator.Proofs.Hook.Marking
import Annotator.Proofs.Text.Phrases

/-! What the build matcher makes of a line: the region of its report, then perhaps the way back. -/

namespace Annotator

namespace Make

variable {site : Site} {launcher : String} {scene : Scene} {line : LogicalLine}
  {progress : Progress}

/-- The way back that is offered over a line, made under a number. -/
def wayBack (scene : Scene) (line : LogicalLine) (progress : Progress) (number : Nat) :
    Option Region :=
  -- Only a line that announces waiting offers it.
  if Diagnostic.announcesWaiting line.text.toList then
    progress.firstError.map fun firstError =>
      scene.drawn ⟨number⟩ (line.position 0) (line.position line.length) (describeJump firstError)
  else none

/-- What comes of a line: the region of its report, the way back, and the reply. -/
inductive Yields (site : Site) (launcher : String) (scene : Scene) (line : LogicalLine)
    (progress : Progress) (number : Nat) :
    Option Region → Option Region → Reply Progress Flow → Prop
  /-- A report about a path that may not enter an action is passed over. -/
  | passed {kind : DiagnosticKind} {place : SourcePlace}
    (found : Diagnostic.ofLine? line.text.toList = some (.located kind place))
    (reserved : hasReserved (site.resolvePath (String.ofList place.path)) = true) :
    Yields site launcher scene line progress number none none ⟨progress, .ok .proceed⟩
  /-- A report about a place is all that is made of its line. -/
  | located {kind : DiagnosticKind} {place : SourcePlace}
    (found : Diagnostic.ofLine? line.text.toList = some (.located kind place))
    (clean : hasReserved (site.resolvePath (String.ofList place.path)) = false)
    (valid : (describeLocated site launcher ⟨number⟩ kind
      (site.resolvePath (String.ofList place.path)) place).validate = .ok ()) :
    Yields site launcher scene line progress number
      (some (scene.drawn ⟨number⟩ (line.position 0) (line.position line.length)
        (describeLocated site launcher ⟨number⟩ kind
          (site.resolvePath (String.ofList place.path)) place)))
      none ⟨progress.record kind ⟨number⟩ line.endRow, .ok .proceed⟩
  /-- A report about a place is refused if its description is not valid. -/
  | refusedLocated {kind : DiagnosticKind} {place : SourcePlace} {error : ActionError}
    (found : Diagnostic.ofLine? line.text.toList = some (.located kind place))
    (clean : hasReserved (site.resolvePath (String.ofList place.path)) = false)
    (invalid : (describeLocated site launcher ⟨number⟩ kind
      (site.resolvePath (String.ofList place.path)) place).validate = .error error) :
    Yields site launcher scene line progress number none none
      ⟨progress, .error (.rejected (.invalidAction error))⟩
  /-- Behind a report without a place the way back may be offered, even to this report. -/
  | bare {kind : DiagnosticKind} {start : Nat}
    (found : Diagnostic.ofLine? line.text.toList = some (.bare kind start))
    (valid : (describeBare site ⟨number⟩ kind).validate = .ok ()) :
    Yields site launcher scene line progress number
      (some (scene.drawn ⟨number⟩ (line.position start) (line.position line.length)
        (describeBare site ⟨number⟩ kind)))
      (wayBack scene line (progress.record kind ⟨number⟩ line.endRow) (number + 1))
      ⟨progress.record kind ⟨number⟩ line.endRow, .ok .proceed⟩
  /-- A report without a place is refused as well if its description is not valid. -/
  | refusedBare {kind : DiagnosticKind} {start : Nat} {error : ActionError}
    (found : Diagnostic.ofLine? line.text.toList = some (.bare kind start))
    (invalid : (describeBare site ⟨number⟩ kind).validate = .error error) :
    Yields site launcher scene line progress number none none
      ⟨progress, .error (.rejected (.invalidAction error))⟩
  /-- A line without a report may offer the way back. -/
  | plain (found : Diagnostic.ofLine? line.text.toList = none) :
    Yields site launcher scene line progress number none
      (wayBack scene line progress number) ⟨progress, .ok .proceed⟩

/-- Offering the way back never fails. -/
theorem offerJump_run (current : scene.line = some line) (progress : Progress)
    (table : RegionTable) :
    let outcome := (offerJump line progress).run scene { table }
    outcome.value = ⟨progress, .ok .proceed⟩ ∧ outcome.desk.table.regions =
      table.regions ++ (wayBack scene line progress table.nextId).toList := by
  -- A region is asked for only behind an error and on a line that announces waiting.
  dsimp only
  unfold offerJump wayBack
  cases progress.firstError with
  | none =>
    refine ⟨rfl, ?_⟩
    simp [Program.run]
  | some firstError =>
    by_cases waits : Diagnostic.announcesWaiting line.text.toList = true
    · dsimp only
      rw [if_pos waits, if_pos waits, Program.run_create current (Scene.spanSound_whole line)
        (validate_describeJump firstError)]
      exact ⟨rfl, rfl⟩
    · dsimp only
      rw [if_neg waits, if_neg waits]
      refine ⟨rfl, ?_⟩
      simp [Program.run]

/-- What a line yields at a fresh desk is added to the table in order. -/
theorem onLine_yields (current : scene.line = some line) (progress : Progress)
    (table : RegionTable) :
    let outcome := (onLine site launcher line progress).run scene { table }
    ∃ report jump, Yields site launcher scene line progress table.nextId report jump
        outcome.value ∧
      outcome.desk.table.regions = table.regions ++ (report.toList ++ jump.toList) := by
  -- What stood in the table stays in front, so only what the line adds is compared.
  intro outcome
  -- Each branch of the work runs to one of the cases.
  cases found : Diagnostic.ofLine? line.text.toList with
  | none =>
    have same : outcome = (offerJump line progress).run scene { table } := by
      simp only [outcome, onLine, found]
    obtain ⟨value, regions⟩ := offerJump_run current progress table
    rw [same, value]
    refine ⟨none, _, .plain found, ?_⟩
    rw [regions, Option.toList_none, List.nil_append]
  | some diagnostic =>
    cases diagnostic with
    | located kind place =>
      by_cases reserved : hasReserved (site.resolvePath (String.ofList place.path)) = true
      · have same : outcome = { value := ⟨progress, .ok .proceed⟩, desk := { table } } := by
          simp only [outcome, onLine, found, reserved, if_true]
          rfl
        rw [same]
        exact ⟨none, none, .passed found reserved, by simp⟩
      · -- The path may enter an action, so it is up to the description.
        have clean := Bool.eq_false_iff.mpr reserved
        cases checked : (describeLocated site launcher ⟨table.nextId⟩ kind
            (site.resolvePath (String.ofList place.path)) place).validate with
        | ok =>
          simp only [outcome, onLine, found, clean, Bool.false_eq_true, if_false]
          rw [Program.run_reserve_create current (Scene.spanSound_whole line) table checked]
          exact ⟨_, none, .located found clean checked, rfl⟩
        | error error =>
          simp only [outcome, onLine, found, clean, Bool.false_eq_true, if_false]
          rw [Program.run_reserve_refused current (Scene.spanSound_whole line) table checked]
          exact ⟨none, none, .refusedLocated found clean checked, (List.append_nil _).symm⟩
    | bare kind start =>
      -- The span runs from the phrase to the end of the line, and the way back comes behind it.
      obtain ⟨front, back, split, rfl⟩ := Diagnostic.ofLine?_bare found
      have sound := Scene.spanSound_back split
      cases checked : (describeBare site ⟨table.nextId⟩ kind).validate with
      | ok =>
        simp only [outcome, onLine, found]
        rw [Program.run_reserve_create current sound table checked]
        obtain ⟨value, regions⟩ := offerJump_run current
          (progress.record kind ⟨table.nextId⟩ line.endRow) (scene.mark table _ _ _)
        dsimp only
        rw [value]
        rw [Scene.mark, List.append_assoc] at regions
        exact ⟨_, _, .bare found checked, regions⟩
      | error error =>
        simp only [outcome, onLine, found]
        rw [Program.run_reserve_refused current sound table checked]
        exact ⟨none, none, .refusedBare found checked, (List.append_nil _).symm⟩

end Make

end Annotator

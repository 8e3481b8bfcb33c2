import Annotator.Builtin
import Annotator.Proofs.Hook.Rewrapped

/-!
The hooks of built-in matchers do the same in whichever way lines are cut. The build matcher keeps
the number of a row, which is only ever compared with the number of the last one.
-/

namespace Annotator

open Rewrapping (Replies)

variable {wrapping : Rewrapping} {jumps : Prop} {line otherLine : LogicalLine} {site : Site}

/-- A listing keeps nothing of the rows in its phase. -/
theorem Listing.machine_rewrapped (listing : Listing) (name : String) :
    wrapping.Respects name (listing.machine site) (· = ·) where
  -- The row is read from the text of the line, and the region covers its whole length.
  start _ _ _ same := by
    subst same
    exact ⟨rfl, rfl⟩
  line _ _ line otherLine phase _ pairs same := by
    subst same
    simp only [machine, ← pairs.text, ← pairs.length]
    cases listing.format.read phase line.text with
    | endOfTable => exact .done ⟨rfl, rfl⟩
    | header => exact .done ⟨rfl, rfl⟩
    | other => exact .done ⟨rfl, rfl⟩
    | row object =>
      refine .create 0 line.length _ fun answer => ?_
      cases answer with
      | ok _ => exact .done ⟨rfl, rfl⟩
      | error _ => exact .done ⟨rfl, rfl⟩
  finish _ _ same := .done ⟨same, rfl⟩

/-- The status matcher keeps nothing of the rows in its section. -/
theorem WorkTree.machine_rewrapped (name : String) :
    wrapping.Respects name (machine site) (· = ·) where
  -- The file is read from the text of the line, and the region ends with it.
  start _ _ _ same := by
    subst same
    exact ⟨rfl, rfl⟩
  line _ _ line otherLine current _ pairs same := by
    subst same
    simp only [machine, ← pairs.text, ← pairs.length]
    cases read current line.text.toList with
    | heading part => exact .done ⟨rfl, rfl⟩
    | other => exact .done ⟨rfl, rfl⟩
    | file part file =>
      refine .create _ line.length _ fun answer => ?_
      cases answer with
      | ok _ => exact .done ⟨rfl, rfl⟩
      | error _ => exact .done ⟨rfl, rfl⟩
  finish _ _ same := .done ⟨same, rfl⟩

namespace Make

/-- What the build matcher remembers is the same when its last report is one logical line. -/
structure SameReports (wrapping : Rewrapping) (progress other : Progress) : Prop where
  /-- The first errors are the same. -/
  firstError : progress.firstError = other.firstError
  /-- Once there was an error, the last rows are those of the same logical line. -/
  lastRow : progress.firstError.isSome → ∃ line otherLine, wrapping.Pairs line otherLine ∧
    progress.lastRow = line.endRow ∧ other.lastRow = otherLine.endRow

variable {launcher : String} {progress other : Progress}

/-- Recording a report on the same logical line keeps what is remembered the same. -/
theorem SameReports.record (same : SameReports wrapping progress other)
    (pairs : wrapping.Pairs line otherLine) (kind : DiagnosticKind) (id : RegionId) :
    SameReports wrapping (progress.record kind id line.endRow)
      (other.record kind id otherLine.endRow) where
  -- The report is made on the line that is taken, which is paired with itself in the other cut.
  firstError := by rw [Progress.record, Progress.record, same.firstError]
  lastRow _ := ⟨line, otherLine, pairs, rfl, rfl⟩

/-- The way back is offered on the same logical line. -/
theorem offerJump_rewrapped (same : SameReports wrapping progress other)
    (pairs : wrapping.Pairs line otherLine) :
    wrapping.Programs (Replies (SameReports wrapping)) jumps (offerJump line progress)
      (offerJump otherLine other) := by
  -- Whether a line waits is read from its text, and the first error is the same.
  unfold offerJump
  rw [← same.firstError, ← pairs.text, ← pairs.length]
  cases progress.firstError with
  | none => exact .done ⟨same, rfl⟩
  | some firstError =>
    dsimp only
    split
    · refine .create 0 line.length _ fun answer => ?_
      cases answer with
      | ok _ => exact .done ⟨same, rfl⟩
      | error _ => exact .done ⟨same, rfl⟩
    · exact .done ⟨same, rfl⟩

/-- The same is made of the same logical line. -/
theorem onLine_rewrapped (same : SameReports wrapping progress other)
    (pairs : wrapping.Pairs line otherLine) :
    wrapping.Programs (Replies (SameReports wrapping)) jumps
      (onLine site launcher line progress) (onLine site launcher otherLine other) := by
  -- The report is read from the text of the line, and what is asked for are offsets in it.
  unfold onLine
  rw [← pairs.text, ← pairs.length]
  cases Diagnostic.ofLine? line.text.toList with
  | none => exact offerJump_rewrapped same pairs
  | some report =>
    cases report with
    | located kind place =>
      dsimp only
      split
      · exact .done ⟨same, rfl⟩
      · refine .reserve fun id => .create 0 line.length _ fun answer => ?_
        cases answer with
        | ok _ => exact .done ⟨same.record pairs kind id, rfl⟩
        | error _ => exact .done ⟨same, rfl⟩
    | bare kind start =>
      -- The line that reports may also wait.
      refine .reserve fun id => .create start line.length _ fun answer => ?_
      cases answer with
      | ok _ => exact offerJump_rewrapped (same.record pairs kind id) pairs
      | error _ => exact .done ⟨same, rfl⟩

/-- The way back is offered from the last row in both ways or in neither. -/
theorem onFinish_rewrapped (allowed : jumps) {view otherView : View}
    (received : view.rowCount = wrapping.rowCount)
    (otherReceived : otherView.rowCount = wrapping.otherRowCount)
    (same : SameReports wrapping progress other) :
    wrapping.Programs (Replies (SameReports wrapping)) jumps
      (onFinish view wrapping.rowCount progress)
      (onFinish otherView wrapping.otherRowCount other) := by
  -- The last report is known only where there is a first error.
  unfold onFinish
  rw [received, otherReceived, Nat.min_self, Nat.min_self, ← same.firstError]
  cases known : progress.firstError with
  | none => exact .done ⟨same, rfl⟩
  | some firstError =>
    obtain ⟨line, otherLine, pairs, last, otherLast⟩ := same.lastRow (by rw [known]; rfl)
    -- Rows follow the last report in both ways, unless it is on the last line.
    have followed := pairs.followed_iff
    rw [← last, ← otherLast] at followed
    dsimp only
    by_cases before : progress.lastRow + 1 < wrapping.rowCount
    · have otherBefore := followed.mp before
      rw [if_pos before, if_pos otherBefore]
      refine .jump allowed (by omega) (by omega) firstError fun answer => ?_
      cases answer with
      | ok _ => exact .done ⟨same, rfl⟩
      | error _ => exact .done ⟨same, rfl⟩
    · rw [if_neg before, if_neg fun otherBefore => before (followed.mpr otherBefore)]
      exact .done ⟨same, rfl⟩

/-- The build matcher remembers no more of a row than which line ends there. -/
theorem machine_rewrapped :
    wrapping.Respects matcherName (machine site launcher) (SameReports wrapping) where
  -- Hook by hook.
  start _ _ _ same := ⟨same, rfl⟩
  line _ _ line otherLine _ _ pairs same := by
    dsimp only [machine]
    exact onLine_rewrapped same pairs
  finish received otherReceived same := onFinish_rewrapped rfl received otherReceived same

end Make

/-- What a built-in factory builds does the same in whichever way lines are cut. -/
theorem Builtin.factory_rewrapped {builtin : Builtin} (known : builtin ∈ Builtin.all)
    (settings : MatcherSettings) (make : MakeSettings) (site : Site) {notes : List Note}
    {matcher : Matcher}
    (built : (builtin.factory settings make).create site = (notes, .ok matcher)) :
    wrapping.Matchers builtin.name matcher matcher := by
  -- Six of the eight are listings.
  simp only [Builtin.all, List.mem_cons, List.not_mem_nil, or_false] at known
  rcases known with rfl | rfl | rfl | rfl | rfl | rfl | rfl | rfl <;> cases built
  · exact .intro (Listing.machine_rewrapped _ _) rfl
  · exact .intro (Listing.machine_rewrapped _ _) rfl
  · exact .intro (Listing.machine_rewrapped _ _) rfl
  · exact .intro (Listing.machine_rewrapped _ _) rfl
  · exact .intro (Listing.machine_rewrapped _ _) rfl
  · exact .intro (Listing.machine_rewrapped _ _) rfl
  · exact .intro (WorkTree.machine_rewrapped _) rfl
  · exact .intro Make.machine_rewrapped ⟨rfl, fun known => by simp at known⟩

end Annotator

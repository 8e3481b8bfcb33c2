import Annotator.Builtin
import Annotator.Proofs.Hook.Coupling

/-!
The hooks of built-in matchers are coupled wherever what they offer may stand for what they offer
under paired numbers.
-/

namespace Annotator

variable {coupling : Coupling} {pairing : Pairing} {sameRows : Prop}

namespace Listing

variable {listing : Listing} {site : Site}

/-- A line of a listing is worked on alike, whatever is seen beside it. -/
theorem onLine_coupled
    (offers : ∀ pairing name, coupling.offers pairing (listing.describe site name)
      (listing.describe site name))
    (view otherView : View) (line : LogicalLine) (phase : ListingPhase) :
    coupling.Programs (SameReply fun _ phase other => phase = other) sameRows pairing
      ((listing.machine site).onLine view line phase)
      ((listing.machine site).onLine otherView line phase) := by
  -- What a line means depends on its text and on the phase, which are the same on both sides.
  simp only [machine]
  cases listing.format.read phase line.text with
  | endOfTable => exact .done ⟨rfl, .ok rfl⟩
  | header => exact .done ⟨rfl, .ok rfl⟩
  | other => exact .done ⟨rfl, .ok rfl⟩
  | row name =>
    -- A row is over the whole line, and the phase stays whatever is answered.
    refine .create 0 line.length (offers pairing name) fun later _ answer otherAnswer agree => ?_
    cases agree with
    | ok paired => exact .done ⟨rfl, .ok rfl⟩
    | error reason => exact .done ⟨rfl, .error trivial⟩

/-- A listing keeps no numbers in its phase. -/
theorem machine_coupled
    (offers : ∀ pairing name, coupling.offers pairing (listing.describe site name)
      (listing.describe site name))
    (starts : ∀ {one other : Invocation}, coupling.starts one other →
      one.mayHaveSucceeded = other.mayHaveSucceeded) :
    coupling.Respects (listing.machine site) fun _ phase other => phase = other where
  -- The phases are equal at all times, and how many rows are seen makes no difference.
  mono _ same := same
  start begun same := ⟨same, .ok (starts begun)⟩
  line line _ same := by
    subst same
    exact onLine_coupled offers _ _ line _
  finish totalRows _ same := .done ⟨same, .ok rfl⟩

end Listing

namespace WorkTree

variable {site : Site}

/-- A line of a status is worked on alike, whatever is seen beside it. -/
theorem onLine_coupled
    (offers : ∀ pairing part name, coupling.offers pairing (describeFile site part name)
      (describeFile site part name))
    (view otherView : View) (line : LogicalLine) (current : Option Section) :
    coupling.Programs (SameReply fun _ current other => current = other) sameRows pairing
      ((machine site).onLine view line current) ((machine site).onLine otherView line current) := by
  -- What a line means depends on its text and on the section, which are the same on both sides.
  simp only [machine]
  cases read current line.text.toList with
  | heading part => exact .done ⟨rfl, .ok rfl⟩
  | other => exact .done ⟨rfl, .ok rfl⟩
  | file part name =>
    -- A file is over the end of the line, and the section stays whatever is answered.
    refine .create _ line.length (offers pairing part _) fun later _ answer otherAnswer agree => ?_
    cases agree with
    | ok paired => exact .done ⟨rfl, .ok rfl⟩
    | error reason => exact .done ⟨rfl, .error trivial⟩

/-- The status matcher keeps no numbers in its section. -/
theorem machine_coupled
    (offers : ∀ pairing part name, coupling.offers pairing (describeFile site part name)
      (describeFile site part name))
    (starts : ∀ {one other : Invocation}, coupling.starts one other →
      one.mayHaveSucceeded = other.mayHaveSucceeded) :
    coupling.Respects (machine site) fun _ current other => current = other where
  -- The sections are equal at all times, and how many rows are seen makes no difference.
  mono _ same := same
  start begun same := ⟨same, .ok (starts begun)⟩
  line line _ same := by
    subst same
    exact onLine_coupled offers _ _ line _
  finish totalRows _ same := .done ⟨same, .ok rfl⟩

end WorkTree

namespace Make

/-- What the build matcher remembers is the same when the first errors are paired. -/
structure SameProgress (pairing : Pairing) (progress other : Progress) : Prop where
  /-- The first errors are paired. -/
  firstError : Option.Rel pairing.Paired progress.firstError other.firstError
  /-- The last rows are the same. -/
  lastRow : progress.lastRow = other.lastRow

/-- What the build matcher offers may stand for what it offers under paired numbers. -/
structure Offers (coupling : Coupling) (site : Site) (launcher : String) : Prop where
  /-- This holds of reports about a place. -/
  located : ∀ {pairing : Pairing} {first second : RegionId}, pairing.Paired first second →
    ∀ kind path place, coupling.offers pairing
      (describeLocated site launcher first kind path place)
      (describeLocated site launcher second kind path place)
  /-- It holds of reports without a place. -/
  bare : ∀ {pairing : Pairing} {first second : RegionId}, pairing.Paired first second →
    ∀ kind, coupling.offers pairing (describeBare site first kind) (describeBare site second kind)
  /-- It holds of the ways back. -/
  jump : ∀ {pairing : Pairing} {first second : RegionId}, pairing.Paired first second →
    coupling.offers pairing (describeJump first) (describeJump second)

variable {site : Site} {launcher : String} {first second : RegionId}
  {progress otherProgress : Progress}

/-- Progress stays the same when more numbers are paired. -/
theorem SameProgress.mono {later : Pairing} (within : pairing.Within later)
    (same : SameProgress pairing progress otherProgress) :
    SameProgress later progress otherProgress :=
  -- Errors that were paired stay paired.
  ⟨related_mono (fun _ _ paired => within paired) same.firstError, same.lastRow⟩

/-- Recording paired regions keeps progress the same. -/
theorem SameProgress.record (same : SameProgress pairing progress otherProgress)
    (paired : pairing.Paired first second) (kind : DiagnosticKind) (row : Nat) :
    SameProgress pairing (progress.record kind first row)
      (otherProgress.record kind second row) := by
  -- The first error is the one that was known before, if there was one.
  obtain ⟨firstError, _⟩ := same
  obtain ⟨known, lastRow⟩ := progress
  obtain ⟨otherKnown, otherLast⟩ := otherProgress
  refine ⟨?_, rfl⟩
  unfold Progress.record
  dsimp only at firstError ⊢
  -- Only the first error is kept, on both sides or on neither.
  split
  · cases firstError with
    | none => exact .some paired
    | some held => exact .some held
  · exact firstError

/-- The way back is offered alike. -/
theorem offerJump_coupled (offers : Offers coupling site launcher) (line : LogicalLine)
    (same : SameProgress pairing progress otherProgress) :
    coupling.Programs (SameReply SameProgress) sameRows pairing (offerJump line progress)
      (offerJump line otherProgress) := by
  -- Either both sides know a first error or neither does.
  obtain ⟨known, lastRow⟩ := progress
  obtain ⟨otherKnown, otherLast⟩ := otherProgress
  have firstError : Option.Rel pairing.Paired known otherKnown := same.firstError
  unfold offerJump
  cases firstError with
  | none => exact .done ⟨same, .ok rfl⟩
  | some paired =>
    dsimp only
    split
    · refine .create 0 line.length (offers.jump paired) ?_
      intro later within answer otherAnswer agree
      cases agree with
      | ok _ => exact .done ⟨same.mono within, .ok rfl⟩
      | error reason => exact .done ⟨same.mono within, .error trivial⟩
    · exact .done ⟨same, .ok rfl⟩

/-- A line is worked on alike. -/
theorem onLine_coupled (offers : Offers coupling site launcher) (line : LogicalLine)
    (same : SameProgress pairing progress otherProgress) :
    coupling.Programs (SameReply SameProgress) sameRows pairing
      (onLine site launcher line progress) (onLine site launcher line otherProgress) := by
  -- What the line reports is the same on both sides, so both take the same branch.
  unfold onLine
  cases Diagnostic.ofLine? line.text.toList with
  | none => exact offerJump_coupled offers line same
  | some report =>
    cases report with
    | located kind place =>
      -- The numbers that are reserved are paired, so what is offered under them agrees.
      dsimp only
      split
      · exact .done ⟨same, .ok rfl⟩
      · refine .reserve fun later within first second paired => ?_
        refine .create 0 line.length (offers.located paired kind _ place) ?_
        intro last beyond answer otherAnswer agree
        have kept := same.mono (within.trans beyond)
        cases agree with
        | ok _ => exact .done ⟨kept.record (beyond paired) kind line.endRow, .ok rfl⟩
        | error reason => exact .done ⟨kept, .error trivial⟩
    | bare kind start =>
      -- Behind the report the way back is offered alike.
      refine .reserve fun later within first second paired => ?_
      refine .create start line.length (offers.bare paired kind) ?_
      intro last beyond answer otherAnswer agree
      have kept := same.mono (within.trans beyond)
      cases agree with
      | ok _ =>
        exact offerJump_coupled offers line (kept.record (beyond paired) kind line.endRow)
      | error reason => exact .done ⟨kept, .error trivial⟩

/-- The end is worked on alike over the same rows. -/
theorem onFinish_coupled (offers : Offers coupling site launcher) (rows : sameRows)
    {view otherView : View} (received : view.rowCount = otherView.rowCount) (totalRows : Nat)
    (same : SameProgress pairing progress otherProgress) :
    coupling.Programs (SameReply SameProgress) sameRows pairing
      (onFinish view totalRows progress) (onFinish otherView totalRows otherProgress) := by
  -- The last rows are equal, so both sides find the same row to offer the way back on, or none.
  obtain ⟨known, lastRow⟩ := progress
  obtain ⟨otherKnown, otherLast⟩ := otherProgress
  have firstError : Option.Rel pairing.Paired known otherKnown := same.firstError
  obtain rfl : lastRow = otherLast := same.lastRow
  unfold onFinish
  rw [received]
  cases firstError with
  | none => exact .done ⟨same, .ok rfl⟩
  | some paired =>
    dsimp only
    split
    · refine .createAt rows _ _ (offers.jump paired) ?_
      intro later within answer otherAnswer agree
      cases agree with
      | ok _ => exact .done ⟨same.mono within, .ok rfl⟩
      | error reason => exact .done ⟨same.mono within, .error trivial⟩
    · exact .done ⟨same, .ok rfl⟩

/-- The build matcher remembers no more of a number than which region it is. -/
theorem machine_coupled (offers : Offers coupling site launcher) :
    coupling.Respects (machine site launcher) SameProgress where
  -- Starting changes nothing, and the other hooks have been compared above.
  mono within same := same.mono within
  start _ same := ⟨same, .ok rfl⟩
  line line _ same := by
    dsimp only [machine]
    exact onLine_coupled offers line same
  finish totalRows received same := onFinish_coupled offers trivial received totalRows same

end Make

end Annotator

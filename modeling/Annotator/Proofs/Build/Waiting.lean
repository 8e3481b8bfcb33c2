import Annotator.Proofs.Build.FirstError
import Annotator.Proofs.Text.Padding

/-!
A line that announces waiting offers the way back to the first error, behind whatever is reported
without a place on the same line. A report about a place takes the whole line for itself.
-/

namespace Annotator

namespace Diagnostic

/-- The phrase that announces waiting. -/
def waitingPhrase : List Char :=
  -- Dots may follow it.
  "Waiting for unfinished jobs".toList

/-- A text ends in white space, the phrase that announces waiting, and any number of dots. -/
def EndsWaiting (text : List Char) : Prop :=
  -- Anything may stand in front.
  ∃ front blank dots, isBlank blank = true ∧
    text = front ++ blank :: waitingPhrase ++ List.replicate dots '.'

/-- Dots at the end of a text are passed over in front of the phrase. -/
theorem dropWhile_dots (front : List Char) (blank : Char) (dots : Nat) :
    (front ++ blank :: waitingPhrase ++ List.replicate dots '.').reverse.dropWhile (· == '.') =
      waitingPhrase.reverse ++ blank :: front.reverse := by
  -- Read from the back the dots come first, and the phrase does not end in one.
  have inside : ∀ c ∈ List.replicate dots '.', (c == '.') = true := fun c member =>
    beq_iff_eq.mpr (List.eq_of_mem_replicate member)
  have last : waitingPhrase.reverse.head? = some 's' := by decide
  have ends : ∀ c ∈ (waitingPhrase.reverse ++ blank :: front.reverse).head?,
      (c == '.') = false := by
    rw [List.head?_append, last]
    rintro _ ⟨⟩
    rfl
  have turned : (front ++ blank :: waitingPhrase ++ List.replicate dots '.').reverse =
      List.replicate dots '.' ++ (waitingPhrase.reverse ++ blank :: front.reverse) := by simp
  rw [turned]
  exact (Text.run_append (· == '.') inside ends).2

/-- Waiting is announced exactly by the texts that end in the phrase. -/
theorem announcesWaiting_iff {text : List Char} :
    announcesWaiting text = true ↔ EndsWaiting text := by
  -- The dots are the longest run of them at the back, and the phrase and a blank stand before it.
  have phrased : "Waiting for unfinished jobs".toList = waitingPhrase := rfl
  rw [announcesWaiting, phrased]
  simp only [Bool.and_eq_true, Text.startsWith, List.isPrefixOf_iff_prefix, Text.startsBlank]
  constructor
  · rintro ⟨⟨rest, split⟩, blank⟩
    obtain ⟨front, run, rfl, dots, -, left⟩ := Text.exists_back (· == '.') text
    rw [← split, List.drop_left] at blank
    rw [List.reverse_eq_iff.mp left] at split
    cases rest with
    | nil => simp at blank
    | cons c rest =>
      have dotted : run = List.replicate run.length '.' :=
        List.eq_replicate_iff.mpr ⟨rfl, fun c member => beq_iff_eq.mp (dots c member)⟩
      have turned : front = rest.reverse ++ c :: waitingPhrase := by
        rw [← List.reverse_reverse front, ← split]
        simp
      exact ⟨rest.reverse, c, run.length, by simpa using blank, by rw [← turned, ← dotted]⟩
  · -- Whatever stands in front makes no difference.
    rintro ⟨front, blank, dots, isBlank, rfl⟩
    rw [dropWhile_dots]
    simp [isBlank]

end Diagnostic

namespace Make

open Diagnostic (EndsWaiting Unplaced)

variable {site : Site} {launcher : String} {scene : Scene} {line : LogicalLine}
  {progress : Progress} {number : Nat} {report jump : Option Region} {reply : Reply Progress Flow}
  {first : RegionId}

/-- On a line that announces waiting there is a way back to every error that is remembered. -/
theorem isSome_wayBack (waits : EndsWaiting line.text.toList)
    (erred : progress.firstError = some first) :
    (wayBack scene line progress number).isSome = true := by
  -- The line announces waiting and there is an error, which is all that is asked for.
  rw [wayBack, if_pos (Diagnostic.announcesWaiting_iff.mpr waits), erred]
  rfl

/-- A way back leads to the error that was remembered before its line. -/
theorem Yields.leadsTo (erred : progress.firstError = some first)
    (yields : Yields site launcher scene line progress number report jump reply) :
    ∀ region ∈ jump, region.LeadsTo first := by
  -- A report on the line itself does not take the place of the first error.
  intro region offered
  obtain ⟨_, _, target, held, leadsTo⟩ := yields.adds.leads region offered
  rw [yields.adds.firstError, erred, Option.some_or] at held
  cases held
  exact leadsTo

/-- Behind an error a line that announces waiting offers the way back unless it has a place. -/
theorem Yields.isSome_jump (clean : Clean site launcher) (waits : EndsWaiting line.text.toList)
    (erred : progress.firstError = some first)
    (yields : Yields site launcher scene line progress number report jump reply) :
    jump.isSome = true ↔ Unplaced line.text.toList := by
  -- A report about a place ends the work on its line, whether or not it is marked.
  have placed {kind : DiagnosticKind} {place : SourcePlace}
      (found : Diagnostic.ofLine? line.text.toList = some (.located kind place)) :
      ¬ Unplaced line.text.toList := fun never =>
    never kind place (Diagnostic.ofLine?_eq_located_iff.mp found).1
  cases yields with
  | passed found reserved => exact iff_of_false Bool.false_ne_true (placed found)
  | located found unreserved valid => exact iff_of_false Bool.false_ne_true (placed found)
  | refusedLocated found unreserved invalid =>
    exact iff_of_false Bool.false_ne_true (placed found)
  | @bare kind start found valid =>
    -- The report is remembered, but the error before it stays the first one.
    have kept : (progress.record kind ⟨number⟩ line.endRow).firstError = some first := by
      simp [Progress.record, erred]
    refine iff_of_true (isSome_wayBack waits kept) ?_
    exact Diagnostic.unplaced_of_ofLine? fun other place located => by simp [found] at located
  | refusedBare found invalid =>
    rw [validate_describeBare clean] at invalid
    cases invalid
  | plain found =>
    refine iff_of_true (isSome_wayBack waits erred) ?_
    exact Diagnostic.unplaced_of_ofLine? fun other place located => by simp [found] at located

/-- A line that is taken first makes a run of one line. -/
theorem reaches_first {outcome : Outcome (Reply Progress Flow)} (current : scene.line = some line)
    (ran : (onLine site launcher line {}).run scene { table := {} } = outcome) :
    Reaches site launcher [⟨line, RegionTable.since {} outcome.desk.table⟩]
      outcome.desk.table.nextId outcome.value.state := by
  -- The table is fresh, so its numbers begin where the run begins.
  have fresh : 1 ≤ RegionTable.nextId {} := Nat.le_refl 1
  exact .line (.start 1) current fresh ran

/--
Once an error was marked, a line that announces waiting offers the way back to the first one, over
the whole line and behind what is reported on it, exactly if it has no report about a place.
-/
theorem waiting_offers_way_back (clean : Clean site launcher) {log : List Passage} {last : Nat}
    (reaches : Reaches site launcher log last progress) (erred : progress.firstError = some first)
    (current : scene.line = some line) (waits : EndsWaiting line.text.toList)
    (table : RegionTable) :
    let outcome := (onLine site launcher line progress).run scene { table }
    (firstError? (allMade log)).map Region.id = some first ∧
      outcome.value.answer = .ok .proceed ∧ ∃ report jump : Option Region,
        outcome.desk.table.regions = table.regions ++ (report.toList ++ jump.toList) ∧
        (∀ region ∈ report, region.isReport = true) ∧
        (jump.isSome = true ↔ Unplaced line.text.toList) ∧
        ∀ region ∈ jump, region.LeadsBack ∧ region.EndsLine line 0 ∧ region.LeadsTo first := by
  -- The run remembers the first error, and the line is worked on with what is remembered.
  dsimp only
  obtain ⟨report, jump, yields, regions⟩ := onLine_yields current progress table
  obtain ⟨answer, classified⟩ := yields.classified clean
  refine ⟨reaches.remembers.firstError.symm.trans erred, answer, report, jump, regions,
    fun region made => (yields.adds.reports region made).1,
    yields.isSome_jump clean waits erred, fun region offered => ?_⟩
  obtain ⟨leads, whole⟩ := classified.wayBack region offered
  exact ⟨leads, whole, yields.leadsTo erred region offered⟩

/-- Behind an error a warning without a place does not keep waiting from being announced. -/
theorem waiting_offers_way_back_behind :
    let site : Site :=
      { command := "make", server := "srv-1", terminal := "term-1", host := "", baseDir := "/w/" }
    let early : LogicalLine := { startRow := 0, first := "a.c:3:1: error: x" }
    let line : LogicalLine :=
      { startRow := 1, first := "make: warning: y Waiting for unfinished jobs...." }
    let earlyScene : Scene :=
      { invocation := ⟨1⟩, matcher := matcherName, limits := {}, rows := #[early.text]
        line := some early }
    let scene : Scene := { earlyScene with rows := #[early.text, line.text], line := some line }
    let before := (onLine site "gedit" early {}).run earlyScene { table := {} }
    let log : List Passage := [⟨early, RegionTable.since {} before.desk.table⟩]
    let outcome := (onLine site "gedit" line before.value.state).run scene
      { table := before.desk.table }
    Clean site "gedit" ∧ Reaches site "gedit" log before.desk.table.nextId before.value.state ∧
      before.value.state.firstError = some ⟨1⟩ ∧ scene.line = some line ∧
      EndsWaiting line.text.toList ∧ ∃ region ∈ outcome.desk.table.regions,
        region.LeadsBack ∧ region.EndsLine line 0 ∧ region.LeadsTo ⟨1⟩ := by
  -- The first line is computed, and the law says what comes of the second one.
  intro site early line earlyScene scene before log outcome
  have clean : Clean site "gedit" := ⟨by decide, by decide, by decide⟩
  have earlyCurrent : earlyScene.line = some early := rfl
  have ran : (onLine site "gedit" early {}).run earlyScene { table := {} } = before := rfl
  have reaches : Reaches site "gedit" log before.desk.table.nextId before.value.state :=
    reaches_first earlyCurrent ran
  have erred : before.value.state.firstError = some ⟨1⟩ := by decide +kernel
  have waits : EndsWaiting line.text.toList :=
    ⟨"make: warning: y".toList, ' ', 4, by decide, by decide⟩
  have unplaced : Unplaced line.text.toList :=
    Diagnostic.located?_eq_none_iff.mp (by decide +kernel)
  have current : scene.line = some line := rfl
  obtain ⟨_, _, report, jump, regions, _, offered, leads⟩ :=
    waiting_offers_way_back clean reaches erred current waits before.desk.table
  obtain ⟨region, jumps⟩ := Option.isSome_iff_exists.mp (offered.mpr unplaced)
  refine ⟨clean, reaches, erred, current, waits, region, ?_, leads region jumps⟩
  rw [regions, jumps]
  exact List.mem_append_right _ (List.mem_append_right _ (List.mem_singleton_self region))

/-- A report about a place passes over the announcement behind it. -/
theorem waiting_passed_over :
    let site : Site :=
      { command := "make", server := "srv-1", terminal := "term-1", host := "", baseDir := "/w/" }
    let early : LogicalLine := { startRow := 0, first := "a.c:3:1: error: x" }
    let line : LogicalLine :=
      { startRow := 1, first := "b.c:9:1: error: y Waiting for unfinished jobs...." }
    let earlyScene : Scene :=
      { invocation := ⟨1⟩, matcher := matcherName, limits := {}, rows := #[early.text]
        line := some early }
    let scene : Scene := { earlyScene with rows := #[early.text, line.text], line := some line }
    let before := (onLine site "gedit" early {}).run earlyScene { table := {} }
    let log : List Passage := [⟨early, RegionTable.since {} before.desk.table⟩]
    let outcome := (onLine site "gedit" line before.value.state).run scene
      { table := before.desk.table }
    Clean site "gedit" ∧ Reaches site "gedit" log before.desk.table.nextId before.value.state ∧
      before.value.state.firstError = some ⟨1⟩ ∧ scene.line = some line ∧
      EndsWaiting line.text.toList ∧ ∀ region ∈ outcome.desk.table.regions, ¬ region.LeadsBack := by
  -- Both lines are computed: they make two reports and nothing that leads back.
  intro site early line earlyScene scene before log outcome
  have clean : Clean site "gedit" := ⟨by decide, by decide, by decide⟩
  have earlyCurrent : earlyScene.line = some early := rfl
  have ran : (onLine site "gedit" early {}).run earlyScene { table := {} } = before := rfl
  have reaches : Reaches site "gedit" log before.desk.table.nextId before.value.state :=
    reaches_first earlyCurrent ran
  have erred : before.value.state.firstError = some ⟨1⟩ := by decide +kernel
  have waits : EndsWaiting line.text.toList :=
    ⟨"b.c:9:1: error: y".toList, ' ', 4, by decide, by decide⟩
  have icons : outcome.desk.table.regions.map (·.metadata.icon) = [some "error", some "error"] := by
    decide +kernel
  refine ⟨clean, reaches, erred, rfl, waits, fun region member leads => ?_⟩
  have listed := List.mem_map_of_mem (f := (·.metadata.icon)) member
  rw [icons, show region.metadata.icon = some "go-up" from leads] at listed
  exact absurd listed (by decide)

end Make

end Annotator

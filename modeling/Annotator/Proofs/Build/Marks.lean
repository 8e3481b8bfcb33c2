import Annotator.Proofs.Build.LineWork

/-! Each line is marked as one kind of report at most, and a place opens as it was written. -/

namespace Annotator

namespace Region

/-- A region tells of a report of a kind. -/
def Tells (region : Region) : DiagnosticKind → Prop
  -- Hosts show the kind by the icon.
  | .error => region.metadata.icon = some "error"
  | .warning => region.metadata.icon = some "warning"
  | .note => region.metadata.icon = some "note"

/-- A region tells of a kind by the icon of that kind. -/
theorem tells_iff {region : Region} {kind : DiagnosticKind} :
    region.Tells kind ↔ region.metadata.icon = some kind.icon := by
  -- Icons are named like their kinds.
  cases kind with
  | error | warning | note => exact Iff.rfl

/-- A region leads back to the first error. -/
def LeadsBack (region : Region) : Prop :=
  -- No report has this icon.
  region.metadata.icon = some "go-up"

/-- A region reaches from an offset of a line to its end. -/
structure EndsLine (region : Region) (line : LogicalLine) (offset : Nat) : Prop where
  /-- It begins at the offset. -/
  start : region.start = line.position offset
  /-- It ends with the line. -/
  stop : region.stop = line.position line.length

end Region

namespace Make

open Diagnostic (Unplaced errorPhrases warningPhrases)
open SourcePlace (IsNumber IsPath Reads Reports)
open Text (OccursAny FirstAt)

variable {site : Site} {launcher : String} {scene : Scene} {line : LogicalLine}
  {progress : Progress} {number : Nat} {report jump : Option Region} {reply : Reply Progress Flow}

/-- The path that a region opens: an absolute one as it is, another one in the base directory. -/
def openedPath (site : Site) (path : List Char) : String :=
  -- Absolute paths begin with a slash.
  if path.head? = some '/' then String.ofList path else site.baseDir ++ String.ofList path

/-- Paths are resolved to what is opened. -/
theorem resolvePath_eq_openedPath (site : Site) (path : List Char) :
    site.resolvePath (String.ofList path) = openedPath site path := by
  -- Both ask whether the path begins with a slash.
  unfold Site.resolvePath openedPath
  rw [String.toList_ofList]
  by_cases absolute : path.head? = some '/'
  · rw [if_pos absolute, if_pos (beq_iff_eq.mpr absolute)]
  · rw [if_neg absolute, if_neg (by simpa using absolute)]

/-- A path may enter an action once it is resolved if no delimiter is in what is opened. -/
theorem resolvePath_clean_iff {path : List Char} :
    hasReserved (site.resolvePath (String.ofList path)) = false ↔
      Undelimited (openedPath site path) := by
  -- What is opened is what resolving gives.
  rw [resolvePath_eq_openedPath, hasReserved_eq_false_iff_undelimited]

/-- How a line is marked, given by what its text contains. -/
structure Classified (site : Site) (line : LogicalLine) (report jump : Option Region) : Prop where
  /-- A report about a place is all that is marked, unless its path may not enter an action. -/
  located : ∀ kind other, Reports kind other line.text.toList → jump = none ∧
    ∃ place, Reads kind place line.text.toList ∧
      (Undelimited (openedPath site place.path) →
        ∃ region, report = some region ∧ region.Tells kind ∧ region.EndsLine line 0) ∧
      (¬ Undelimited (openedPath site place.path) → report = none)
  /-- Otherwise the first phrase of an error decides, wherever a warning may stand. -/
  error : Unplaced line.text.toList → OccursAny errorPhrases line.text.toList →
    ∃ region offset, report = some region ∧ region.Tells .error ∧ region.EndsLine line offset ∧
      FirstAt errorPhrases line.text.toList offset
  /-- Without one the first phrase of a warning does. -/
  warning : Unplaced line.text.toList → ¬ OccursAny errorPhrases line.text.toList →
    OccursAny warningPhrases line.text.toList →
    ∃ region offset, report = some region ∧ region.Tells .warning ∧ region.EndsLine line offset ∧
      FirstAt warningPhrases line.text.toList offset
  /-- Any other line has no report. -/
  nothing : Unplaced line.text.toList → ¬ OccursAny errorPhrases line.text.toList →
    ¬ OccursAny warningPhrases line.text.toList → report = none
  /-- Whatever else is marked is the whole line, and leads back. -/
  wayBack : ∀ region ∈ jump, region.LeadsBack ∧ region.EndsLine line 0

/-- The way back leads back, over the whole line. -/
theorem wayBack_leads {region : Region} (offered : region ∈ wayBack scene line progress number) :
    region.LeadsBack ∧ region.EndsLine line 0 := by
  -- If it is offered at all, it is the region that was described.
  unfold wayBack at offered
  split at offered
  · obtain ⟨firstError, _, rfl⟩ := Option.map_eq_some_iff.mp offered
    exact ⟨rfl, rfl, rfl⟩
  · cases offered

/-- A line with a place is classified by it alone. -/
theorem Classified.of_located {kind : DiagnosticKind} {place : SourcePlace}
    (found : Diagnostic.ofLine? line.text.toList = some (.located kind place))
    (marked : Undelimited (openedPath site place.path) →
      ∃ region, report = some region ∧ region.Tells kind ∧ region.EndsLine line 0)
    (skipped : ¬ Undelimited (openedPath site place.path) → report = none) :
    Classified site line report none := by
  -- The other cases are about lines that no place can be read from.
  have reads := Diagnostic.ofLine?_eq_located_iff.mp found
  have placed : ¬ Unplaced line.text.toList := fun never => never kind place reads.1
  constructor
  · intro other also reports
    obtain ⟨rfl, _⟩ := reports.alike reads.1
    exact ⟨rfl, place, reads, marked, skipped⟩
  · exact fun never => absurd never placed
  · exact fun never => absurd never placed
  · exact fun never => absurd never placed
  · exact fun _ member => nomatch member

/-- A line without a place is classified by the first phrase, where errors come before warnings. -/
theorem Classified.of_bare {kind : DiagnosticKind} {start : Nat} {region : Region}
    (found : Diagnostic.ofLine? line.text.toList = some (.bare kind start))
    (tells : region.Tells kind) (ends : region.EndsLine line start)
    (leads : ∀ region ∈ jump, region.LeadsBack ∧ region.EndsLine line 0) :
    Classified site line (some region) jump := by
  -- A bare report was found, so no place was, and the phrases are sought in the order of the kinds.
  have never : Unplaced line.text.toList :=
    Diagnostic.unplaced_of_ofLine? fun other place located => by simp [found] at located
  have phrased := found
  rw [Diagnostic.ofLine?_of_unplaced never] at phrased
  have absent {phrases : List (List Char)} (never : ¬ OccursAny phrases line.text.toList) :
      Text.firstOffset? phrases line.text.toList = none :=
    Option.not_isSome_iff_eq_none.mp (mt Text.isSome_firstOffset?.mp never)
  -- Whichever phrase decides, it is the one that the search for the report has found.
  constructor
  · -- There is no place to report about.
    exact fun other place reports => absurd reports (never other place)
  · -- The phrase of an error is sought first, so it is the one that was found.
    intro _ error
    obtain ⟨offset, first⟩ := Option.isSome_iff_exists.mp (Text.isSome_firstOffset?.mpr error)
    rw [first] at phrased
    cases phrased
    exact ⟨region, start, rfl, tells, ends, Text.firstOffset?_firstAt first⟩
  · -- Without the phrase of an error that of a warning was found.
    intro _ noError warning
    obtain ⟨offset, first⟩ := Option.isSome_iff_exists.mp (Text.isSome_firstOffset?.mpr warning)
    rw [absent noError, first] at phrased
    cases phrased
    exact ⟨region, start, rfl, tells, ends, Text.firstOffset?_firstAt first⟩
  · -- Without any of the phrases nothing would have been found.
    intro _ noError noWarning
    rw [absent noError, absent noWarning] at phrased
    cases phrased
  · exact leads

/-- A line without a report has none of the phrases. -/
theorem Classified.of_plain (found : Diagnostic.ofLine? line.text.toList = none)
    (leads : ∀ region ∈ jump, region.LeadsBack ∧ region.EndsLine line 0) :
    Classified site line none jump := by
  -- Nothing was found, so none of the phrases occurs.
  have never : Unplaced line.text.toList :=
    Diagnostic.unplaced_of_ofLine? fun other place located => by simp [found] at located
  have phrased := found
  rw [Diagnostic.ofLine?_of_unplaced never, Option.or_eq_none_iff, Option.map_eq_none_iff,
    Option.map_eq_none_iff] at phrased
  obtain ⟨noError, noWarning⟩ := phrased
  constructor
  · exact fun other place reports => absurd reports (never other place)
  · intro _ occurs
    rw [← Text.isSome_firstOffset?, noError] at occurs
    cases occurs
  · intro _ _ occurs
    rw [← Text.isSome_firstOffset?, noWarning] at occurs
    cases occurs
  · exact fun _ _ _ => rfl
  · exact leads

/-- What a line yields is classified by its text, if nothing unclean can be in the way. -/
theorem Yields.classified (clean : Clean site launcher)
    (yields : Yields site launcher scene line progress number report jump reply) :
    reply.answer = .ok .proceed ∧ Classified site line report jump := by
  -- Each case of the work on a line is one case of the classification.
  cases yields with
  | passed found reserved =>
    refine ⟨rfl, .of_located found (fun undelimited => ?_) fun _ => rfl⟩
    rw [resolvePath_clean_iff.mpr undelimited] at reserved
    cases reserved
  | located found unreserved valid =>
    refine ⟨rfl, .of_located found (fun _ => ?_) fun delimited => ?_⟩
    · exact ⟨_, rfl, Region.tells_iff.mpr rfl, rfl, rfl⟩
    · exact absurd (resolvePath_clean_iff.mp unreserved) delimited
  | refusedLocated found unreserved invalid =>
    -- With clean texts nothing is refused.
    rw [validate_describeLocated clean _ _ unreserved (Diagnostic.ofLine?_located found)] at invalid
    cases invalid
  | bare found valid =>
    exact ⟨rfl, .of_bare found (Region.tells_iff.mpr rfl) ⟨rfl, rfl⟩ fun region offered =>
      wayBack_leads offered⟩
  | refusedBare found invalid =>
    rw [validate_describeBare clean] at invalid
    cases invalid
  | plain found =>
    exact ⟨rfl, .of_plain found fun region offered => wayBack_leads offered⟩

/--
A line is classified once: no two kinds of report about a place fit it, and what is made of it is at
most one region for its report and one that leads back.
-/
theorem line_classified_once (clean : Clean site launcher) (current : scene.line = some line)
    (progress : Progress) (table : RegionTable) :
    (∀ kind other place also, Reports kind place line.text.toList →
      Reports other also line.text.toList → kind = other) ∧
    let outcome := (onLine site launcher line progress).run scene { table }
    ∃ report jump : Option Region,
      outcome.desk.table.regions = table.regions ++ (report.toList ++ jump.toList) ∧
        outcome.value.answer = .ok .proceed ∧ Classified site line report jump := by
  -- What the line yields has been described, and is classified case by case.
  constructor
  · intro kind other place also reports reportsAlso
    exact (reports.alike reportsAlso).1
  · dsimp only
    obtain ⟨report, jump, yields, regions⟩ := onLine_yields current progress table
    obtain ⟨answer, classified⟩ := yields.classified clean
    exact ⟨report, jump, regions, answer, classified⟩

/--
An error with a place is classified once, although a warning is spelled out behind it.

Without a place the error wins over the warning in front of it, and a warning alone is one.
-/
theorem mixed_line_classified_once :
    let site : Site :=
      { command := "make", server := "srv-1", terminal := "term-1", host := "", baseDir := "/w/" }
    let lineOf (text : String) : LogicalLine := { startRow := 0, first := text }
    let sceneOf (text : String) : Scene :=
      { invocation := ⟨1⟩, matcher := matcherName, limits := {}, rows := #[text]
        line := some (lineOf text) }
    let marked (text : String) :=
      let handled := (onLine site "gedit" (lineOf text) {}).run (sceneOf text) { table := {} }
      handled.desk.table.regions.map fun region =>
        (region.metadata.icon, region.start, region.stop)
    let line := lineOf "a.c:3: error: warning: x"
    let scene := sceneOf "a.c:3: error: warning: x"
    let progress : Progress := {}
    let table : RegionTable := {}
    marked "a.c:3: error: warning: x" = [(some "error", ⟨0, 0⟩, ⟨0, 24⟩)] ∧
      marked "a|b.c:3: error: warning: x" = [] ∧
      marked "warning: y error: x" = [(some "error", ⟨0, 11⟩, ⟨0, 19⟩)] ∧
      marked "ld: undefined reference to f" = [(some "error", ⟨0, 4⟩, ⟨0, 28⟩)] ∧
      marked "a.c: sorry, unimplemented: f" = [(some "error", ⟨0, 5⟩, ⟨0, 28⟩)] ∧
      marked "cc1: warning: x warning: y" = [(some "warning", ⟨0, 5⟩, ⟨0, 26⟩)] ∧
      marked "a.c: note: nothing" = [] ∧
      Clean site "gedit" ∧ scene.line = some line ∧
      (∀ kind other place also, Reports kind place line.text.toList →
        Reports other also line.text.toList → kind = other) ∧
      let outcome := (onLine site "gedit" line progress).run scene { table }
      ∃ report jump : Option Region,
        outcome.desk.table.regions = table.regions ++ (report.toList ++ jump.toList) ∧
          outcome.value.answer = .ok .proceed ∧ Classified site line report jump := by
  -- None of the values of the site holds a delimiter.
  intro site lineOf sceneOf marked line scene progress table
  have clean : Clean site "gedit" := ⟨by decide, by decide, by decide⟩
  have current : scene.line = some line := rfl
  -- One line for each case, and the theorem itself at the first of them.
  exact ⟨by decide +kernel, by decide +kernel, by decide +kernel, by decide +kernel,
    by decide +kernel, by decide +kernel, by decide +kernel, clean, current,
    line_classified_once clean current progress table⟩

/-- What is offered for a report about a place is valid only if nothing unclean is put into it. -/
theorem validate_describeLocated_iff {id : RegionId} {kind : DiagnosticKind} {path : String}
    (checked : hasReserved path = false) {place : SourcePlace}
    (numeric : SourcePlace.Numeric place.line place.column) :
    (describeLocated site launcher id kind path place).validate = .ok () ↔ Clean site launcher := by
  -- The unchecked texts occur in the action that opens and in the entry that copies.
  constructor
  · intro valid
    obtain ⟨primary, entries⟩ := Metadata.validate_eq_ok_iff_parts.mp valid
    have opens : (openAction site launcher path place).validate = .ok () := primary _ rfl
    have copies : (copyEntry site id).Valid := entries _ (by simp [describeLocated])
    rw [copyEntry, MenuEntry.valid_ofAction] at copies
    have opened := (Action.validate_eq_ok_iff.mp opens).2
    have copied := (Action.validate_eq_ok_iff.mp copies).2
    constructor
    · exact opened site.server (by simp [openAction, Action.texts, Argument.texts])
    · exact copied site.terminal (by simp [Action.texts, Argument.texts])
    · exact opened launcher (by simp [openAction, Action.texts, Argument.texts])
  · intro clean
    exact validate_describeLocated clean id kind checked numeric

/-- A line is marked as a report about a place, which its region opens. -/
structure OpensPlace (site : Site) (launcher : String) (line : LogicalLine) (kind : DiagnosticKind)
    (place : SourcePlace) (report : Option Region) : Prop where
  /-- There is a region unless its actions would be invalid. -/
  present : report.isSome = true ↔
    Clean site launcher ∧ Undelimited (openedPath site place.path)
  /-- It tells of the kind. -/
  tells : ∀ region ∈ report, region.Tells kind
  /-- It is the whole line. -/
  whole : ∀ region ∈ report, region.EndsLine line 0
  /-- It opens the path at the line and the column, or the first one if none is given. -/
  opens : ∀ region ∈ report, region.metadata.primaryAction = some
    { name := "OpenFile"
      args := [.value launcher, .value site.server, .value (openedPath site place.path),
        .list ["l=" ++ String.ofList place.line,
          "c=" ++ String.ofList (place.column.getD ['1'])]] }

/-- A place that does not open leaves its line without a region. -/
theorem OpensPlace.of_none {kind : DiagnosticKind} {place : SourcePlace}
    (unopened : ¬ (Clean site launcher ∧ Undelimited (openedPath site place.path))) :
    OpensPlace site launcher line kind place none := by
  -- Without a region there is nothing to say about it.
  constructor
  · exact ⟨fun isSome => Bool.noConfusion isSome, fun opens => absurd opens unopened⟩
  · exact fun _ member => nomatch member
  · exact fun _ member => nomatch member
  · exact fun _ member => nomatch member

/-- A text is read as a report about a place, and every line of this text is marked so. -/
def ReadsPlace (site : Site) (launcher : String) (text : List Char) (kind : DiagnosticKind)
    (place : SourcePlace) : Prop :=
  -- It makes no difference what was marked before.
  Diagnostic.ofLine? text = some (.located kind place) ∧
    ∀ (scene : Scene) (line : LogicalLine) (progress : Progress) (table : RegionTable),
      scene.line = some line → line.text.toList = text →
        let outcome := (onLine site launcher line progress).run scene { table }
        ∃ report : Option Region, outcome.desk.table.regions = table.regions ++ report.toList ∧
          OpensPlace site launcher line kind place report

/-- What a line with a place yields opens the place. -/
theorem Yields.opensPlace {kind : DiagnosticKind} {place : SourcePlace}
    (found : Diagnostic.ofLine? line.text.toList = some (.located kind place))
    (yields : Yields site launcher scene line progress number report jump reply) :
    jump = none ∧ OpensPlace site launcher line kind place report := by
  -- Only the three cases with a place are possible.
  cases yields with
  | passed also reserved =>
    cases found.symm.trans also
    refine ⟨rfl, .of_none fun opens => ?_⟩
    rw [resolvePath_clean_iff.mpr opens.2] at reserved
    cases reserved
  | located also unreserved valid =>
    -- The description was valid, so the unchecked texts were clean.
    cases found.symm.trans also
    have clean :=
      (validate_describeLocated_iff unreserved (Diagnostic.ofLine?_located found)).mp valid
    refine ⟨rfl, ?_, ?_, ?_, ?_⟩
    · exact ⟨fun _ => ⟨clean, resolvePath_clean_iff.mp unreserved⟩, fun _ => rfl⟩
    · rintro _ ⟨⟩
      exact Region.tells_iff.mpr rfl
    · rintro _ ⟨⟩
      exact ⟨rfl, rfl⟩
    · rintro _ ⟨⟩
      rw [← resolvePath_eq_openedPath]
      rfl
  | refusedLocated also unreserved invalid =>
    cases found.symm.trans also
    refine ⟨rfl, .of_none fun opens => ?_⟩
    rw [validate_describeLocated opens.1 _ _ unreserved (Diagnostic.ofLine?_located found)]
      at invalid
    cases invalid
  | bare also valid => cases found.symm.trans also
  | refusedBare also invalid => cases found.symm.trans also
  | plain also => cases found.symm.trans also

/-- Every line of a text that is read with a place opens it. -/
theorem readsPlace {text : List Char} {kind : DiagnosticKind} {place : SourcePlace}
    (reads : Reads kind place text) : ReadsPlace site launcher text kind place := by
  -- Reading a text does not depend on the line or on what was marked before.
  have found := Diagnostic.ofLine?_eq_located_iff.mpr reads
  refine ⟨found, fun scene line progress table current same => ?_⟩
  subst same
  obtain ⟨report, jump, yields, regions⟩ := onLine_yields current progress table
  obtain ⟨rfl, opens⟩ := yields.opensPlace found
  refine ⟨report, ?_, opens⟩
  rwa [Option.toList_none, List.append_nil] at regions

/--
A place is recovered from the right: the last number is the column if a number stands in front of
it, and otherwise the line, whatever colons and numbers there are in the path.
-/
theorem place_read_from_right (site : Site) (launcher : String) {kind : DiagnosticKind}
    {phrase : String}
    (keyword : (phrase, kind) ∈ [("error: ", DiagnosticKind.error), ("fatal error: ", .error),
      ("undefined reference to ", .error), ("sorry, unimplemented: ", .error),
      ("warning: ", .warning), ("note: ", .note)]) (rest : List Char)
    {path number column : List Char} (isPath : IsPath path) (isNumber : IsNumber number)
    (isColumn : IsNumber column) :
    let report := ' ' :: (phrase.toList ++ rest)
    ReadsPlace site launcher (path ++ ':' :: number ++ ':' :: column ++ ':' :: report) kind
        { path, line := number, column := some column } ∧
      (∀ short digits, short ≠ [] → IsNumber digits → path = short ++ ':' :: digits →
        ReadsPlace site launcher (path ++ ':' :: number ++ ':' :: report) kind
          { path := short, line := digits, column := some number }) ∧
      ((∀ short digits, short ≠ [] → IsNumber digits → path ≠ short ++ ':' :: digits) →
        ReadsPlace site launcher (path ++ ':' :: number ++ ':' :: report) kind
          { path, line := number, column := none }) := by
  -- Each of the three texts is a report about the place, which is the shortest one it allows.
  intro report
  have announces := DiagnosticKind.Announces.of_keyword keyword rest
  refine ⟨?_, ?_, ?_⟩
  · apply readsPlace
    have reports : Reports kind { path, line := number, column := some column }
        (path ++ ':' :: number ++ ':' :: column ++ ':' :: report) :=
      ⟨isPath, isNumber, by rintro _ ⟨⟩; exact isColumn, _, announces,
        by simp [SourcePlace.written, SourcePlace.writtenNumbers, report]⟩
    -- A place with a column absorbs no other one.
    exact reports.reads fun short _ absorbs => by cases absorbs.2.2
  · -- The number at the end of the path is taken for the line, and the line for a column.
    rintro short digits nonempty isDigits rfl
    apply readsPlace
    have shortPath : IsPath short :=
      ⟨nonempty, fun c member => isPath.2 c (List.mem_append_left _ member)⟩
    have reports : Reports kind { path := short, line := digits, column := some number }
        (short ++ ':' :: digits ++ ':' :: number ++ ':' :: report) :=
      ⟨shortPath, isDigits, by rintro _ ⟨⟩; exact isNumber, _, announces,
        by simp [SourcePlace.written, SourcePlace.writtenNumbers, report]⟩
    exact reports.reads fun other _ absorbs => by cases absorbs.2.2
  · intro unsplit
    apply readsPlace
    have reports : Reports kind { path, line := number, column := none }
        (path ++ ':' :: number ++ ':' :: report) :=
      ⟨isPath, isNumber, by rintro _ ⟨⟩, _, announces,
        by simp [SourcePlace.written, SourcePlace.writtenNumbers, report]⟩
    -- A place that is absorbed would split the path.
    exact reports.reads fun short also absorbs =>
      unsplit short.path short.line also.path.1 also.number absorbs.1

/-- A path that ends in a number gives the number away, and another one keeps its colons. -/
theorem place_read_from_right_drive :
    let site : Site :=
      { command := "make", server := "srv-1", terminal := "term-1", host := "", baseDir := "/w/" }
    let marked (text : String) :=
      let line : LogicalLine := { startRow := 0, first := text }
      let scene : Scene :=
        { invocation := ⟨1⟩, matcher := matcherName, limits := {}, rows := #[text]
          line := some line }
      ((onLine site "gedit" line {}).run scene { table := {} }).desk.table.regions.map
        fun region =>
          (region.metadata.icon, region.start, region.stop, region.metadata.primaryAction)
    let opening (path number column : String) : Option Action := some
      { name := "OpenFile"
        args := [.value "gedit", .value "srv-1", .value path, .list [number, column]] }
    let path := "C:a.c:12".toList
    let number := "7".toList
    let column := "5".toList
    marked "C:a.c:12:7:5: warning: x" =
        [(some "warning", ⟨0, 0⟩, ⟨0, 24⟩, opening "/w/C:a.c:12" "l=7" "c=5")] ∧
      marked "C:a.c:12:7: warning: x" =
        [(some "warning", ⟨0, 0⟩, ⟨0, 22⟩, opening "/w/C:a.c" "l=12" "c=7")] ∧
      marked "/a.c:7: undefined reference to x" =
        [(some "error", ⟨0, 0⟩, ⟨0, 32⟩, opening "/a.c" "l=7" "c=1")] ∧
      ["error: ", "fatal error: ", "undefined reference to ", "sorry, unimplemented: ",
          "warning: ", "note: "].map (fun phrase => (marked ("a.c:7: " ++ phrase)).map (·.1)) =
        [[some "error"], [some "error"], [some "error"], [some "error"], [some "warning"],
          [some "note"]] ∧
      ("warning: ", DiagnosticKind.warning) ∈ [("error: ", DiagnosticKind.error),
        ("fatal error: ", .error), ("undefined reference to ", .error),
        ("sorry, unimplemented: ", .error), ("warning: ", .warning), ("note: ", .note)] ∧
      IsPath path ∧ IsNumber number ∧ IsNumber column ∧
      let report := ' ' :: ("warning: ".toList ++ "x".toList)
      ReadsPlace site "gedit" (path ++ ':' :: number ++ ':' :: column ++ ':' :: report) .warning
          { path, line := number, column := some column } ∧
        (∀ short digits, short ≠ [] → IsNumber digits → path = short ++ ':' :: digits →
          ReadsPlace site "gedit" (path ++ ':' :: number ++ ':' :: report) .warning
            { path := short, line := digits, column := some number }) ∧
        ((∀ short digits, short ≠ [] → IsNumber digits → path ≠ short ++ ':' :: digits) →
          ReadsPlace site "gedit" (path ++ ':' :: number ++ ':' :: report) .warning
            { path, line := number, column := none }) := by
  -- A path may hold colons and digits of its own, which are read from the right.
  intro site marked opening path number column
  have keyword : ("warning: ", DiagnosticKind.warning) ∈ [("error: ", DiagnosticKind.error),
      ("fatal error: ", .error), ("undefined reference to ", .error),
      ("sorry, unimplemented: ", .error), ("warning: ", .warning), ("note: ", .note)] := by
    decide
  have nonblank : path.all (!isBlank ·) = true := by decide
  have isPath : IsPath path :=
    ⟨by decide, fun c member => by simpa using List.all_eq_true.mp nonblank c member⟩
  have isNumber : IsNumber number := ⟨by decide, List.all_eq_true.mp (by decide)⟩
  have isColumn : IsNumber column := ⟨by decide, List.all_eq_true.mp (by decide)⟩
  -- What is marked is computed, and agrees with what the places say in general.
  exact ⟨by decide +kernel, by decide +kernel, by decide +kernel, by decide +kernel, keyword,
    isPath, isNumber, isColumn,
    place_read_from_right site "gedit" keyword "x".toList isPath isNumber isColumn⟩

end Make

end Annotator

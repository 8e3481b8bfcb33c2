import Annotator.Proofs.Build.Marks

/-!
Over a whole run the first error that is marked is remembered, and every way back leads to it.
-/

namespace Annotator

namespace Region

instance (region : Region) (kind : DiagnosticKind) : Decidable (region.Tells kind) :=
  decidable_of_iff (region.metadata.icon = some kind.icon) tells_iff.symm

/-- A region tells of a report of some kind. -/
def isReport (region : Region) : Bool :=
  -- What leads back is no report.
  [DiagnosticKind.error, .warning, .note].any fun kind => region.Tells kind

/-- Whatever a region copies is the report that it marks itself. -/
def CopiesItself (region : Region) : Prop :=
  -- The report is known by its region.
  ∀ action ∈ region.metadata.actions, action.name = "CopySemantic" →
    action.args.head? = some (.value (toString region.id.number))

/-- A region leads back to another one. -/
def LeadsTo (region : Region) (target : RegionId) : Prop :=
  -- Some rows above the target are shown too.
  region.metadata.primaryAction = some
    { name := "ScrollSemanticRelative"
      args := [.value (toString target.number), .value "-10"] }

variable {region : Region} {kind : DiagnosticKind}

/-- A region that tells of a kind is a report. -/
theorem isReport_of_tells (tells : region.Tells kind) : region.isReport = true :=
  -- All kinds are among those that are tried.
  List.any_eq_true.mpr ⟨kind, by cases kind <;> decide, decide_eq_true tells⟩

/-- What leads back tells of no report. -/
theorem LeadsBack.not_tells (leads : region.LeadsBack) (kind : DiagnosticKind) :
    ¬ region.Tells kind := by
  -- Each kind has an icon of its own, and what leads back has yet another one.
  rw [tells_iff, show region.metadata.icon = some "go-up" from leads]
  cases kind <;> decide

/-- What leads back is no report. -/
theorem LeadsBack.not_report (leads : region.LeadsBack) : region.isReport = false := by
  -- It tells of none of the kinds.
  simp [isReport, leads.not_tells]

end Region

/-- A region that is drawn copies itself if all that copies in its description names its number. -/
theorem Scene.drawn_copiesItself {scene : Scene} {id : RegionId} {start stop : Position}
    {metadata : Metadata}
    (copies : ∀ action ∈ metadata.actions, action.name = "CopySemantic" →
      action.args.head? = some (.value (toString id.number))) :
    (scene.drawn id start stop metadata).CopiesItself :=
  -- Limits take actions away and add none.
  fun action member => copies action (Metadata.mem_actions_of_limited member)

namespace Make

variable {site : Site} {launcher : String}

/-- The first error among the regions that were made. -/
def firstError? (made : List Region) : Option Region :=
  -- Regions are made in this order.
  made.find? (·.Tells .error)

/-- Regions name each other as they should. -/
structure Coherent (made : List Region) : Prop where
  /-- Each of them is a report or leads back. -/
  sorts : ∀ region ∈ made, region.isReport = true ∨ region.LeadsBack
  /-- Reports copy themselves. -/
  copies : ∀ region ∈ made, region.CopiesItself
  /-- What leads back leads to the first error, which was made before it. -/
  leads : ∀ front region back, made = front ++ region :: back → region.LeadsBack →
    ∃ error, firstError? front = some error ∧ error.id.number < region.id.number ∧
      region.LeadsTo error.id

/-- A line that was taken, and the regions that were made of it. -/
structure Passage where
  /-- The line. -/
  line : LogicalLine
  /-- The regions in order. -/
  made : List Region

/--
A run takes line after line, each at a desk of its own.

Other matchers may make regions between the lines, and regions may be evicted, but no number is
taken back.
-/
inductive Reaches (site : Site) (launcher : String) : List Passage → Nat → Progress → Prop
  /-- At first nothing is remembered. -/
  | start (next : Nat) : Reaches site launcher [] next {}
  /-- A line is taken, whether or not what it asks for is granted. -/
  | line {log : List Passage} {next : Nat} {progress : Progress}
    (earlier : Reaches site launcher log next progress) {scene : Scene} {line : LogicalLine}
    (current : scene.line = some line) {table : RegionTable} (later : next ≤ table.nextId)
    {outcome : Outcome (Reply Progress Flow)}
    (ran : (onLine site launcher line progress).run scene { table } = outcome) :
    Reaches site launcher (log ++ [⟨line, table.since outcome.desk.table⟩])
      outcome.desk.table.nextId outcome.value.state

/-- The regions that were made of all lines. -/
def allMade (log : List Passage) : List Region :=
  -- Lines are taken one after the other.
  log.flatMap (·.made)

/-- The last line of which a report was made. -/
def lastReport? (log : List Passage) : Option Passage :=
  -- Of a line nothing else may be made than what leads back.
  log.reverse.find? fun passage => passage.made.any (·.isReport)

variable {scene : Scene} {line : LogicalLine} {progress next : Progress} {number : Nat}
  {report jump : Option Region} {reply : Reply Progress Flow} {made : List Region}

/-- What a line adds to a run. -/
structure Adds (line : LogicalLine) (progress : Progress) (report jump : Option Region)
    (next : Progress) : Prop where
  /-- A report copies itself. -/
  reports : ∀ region ∈ report, region.isReport = true ∧ region.CopiesItself
  /-- The first error is remembered, and no other one. -/
  firstError : next.firstError =
    progress.firstError.or ((report.filter fun region => region.Tells .error).map Region.id)
  /-- The row in which a report ends is remembered. -/
  lastRow : next.lastRow = if report.isSome then line.endRow else progress.lastRow
  /-- The way back leads to what is remembered. -/
  leads : ∀ region ∈ jump, region.LeadsBack ∧ region.CopiesItself ∧
    ∃ target, next.firstError = some target ∧ region.LeadsTo target
  /-- The report comes before the way back. -/
  order : ∀ first ∈ report, ∀ second ∈ jump, first.id.number < second.id.number

/-- A line without a report adds the way back at most. -/
theorem Adds.of_none
    (leads : ∀ region ∈ jump, region.LeadsBack ∧ region.CopiesItself ∧
      ∃ target, progress.firstError = some target ∧ region.LeadsTo target) :
    Adds line progress none jump progress where
  -- Nothing changes without a report, and the way back is as it was given.
  reports _ member := nomatch member
  firstError := (Option.or_none).symm
  lastRow := rfl
  leads := leads
  order _ member := nomatch member

/-- A report is remembered when it is marked. -/
theorem Adds.of_some {region : Region} {kind : DiagnosticKind} {id : RegionId}
    (tells : region.Tells kind) (named : region.id = id) (copies : region.CopiesItself)
    (leads : ∀ other ∈ jump, other.LeadsBack ∧ other.CopiesItself ∧
      ∃ target, (progress.record kind id line.endRow).firstError = some target ∧
        other.LeadsTo target)
    (order : ∀ other ∈ jump, id.number < other.id.number) :
    Adds line progress (some region) jump (progress.record kind id line.endRow) where
  -- Recording keeps the first error, and remembers the row in which the line ends.
  reports := by
    rintro _ ⟨⟩
    exact ⟨Region.isReport_of_tells tells, copies⟩
  firstError := by
    have error : region.Tells .error ↔ kind = .error := by
      -- A region tells of one kind only.
      rw [Region.tells_iff, Region.tells_iff.mp tells]
      cases kind <;> decide
    by_cases isError : kind = .error
    · simp [Progress.record, isError, Option.filter, error, named]
    · simp [Progress.record, isError, Option.filter, error]
  lastRow := rfl
  leads := leads
  order := by
    rintro _ ⟨⟩ other member
    rw [named]
    exact order other member

/-- What leads back copies nothing. -/
theorem describeJump_copies {target id : RegionId} :
    ∀ action ∈ (describeJump target).actions, action.name = "CopySemantic" →
      action.args.head? = some (.value (toString id.number)) := by
  -- Its only action scrolls.
  simp +decide [Metadata.actions, describeJump]

/-- The way back is made under the given number and leads to the error that is remembered. -/
theorem wayBack_adds {region : Region} (offered : region ∈ wayBack scene line progress number) :
    region.id = ⟨number⟩ ∧ region.LeadsBack ∧ region.CopiesItself ∧
      ∃ target, progress.firstError = some target ∧ region.LeadsTo target := by
  -- It is offered only if an error is remembered.
  have leads := (wayBack_leads offered).1
  unfold wayBack at offered
  split at offered
  · obtain ⟨target, held, rfl⟩ := Option.map_eq_some_iff.mp offered
    exact ⟨rfl, leads, Scene.drawn_copiesItself describeJump_copies, target, held, rfl⟩
  · cases offered

/-- What is made of a line is remembered, and offers what it should. -/
theorem Yields.adds (yields : Yields site launcher scene line progress number report jump reply) :
    Adds line progress report jump reply.state := by
  -- A report that is refused or passed over adds nothing, and any other one is recorded.
  cases yields with
  | passed found reserved => exact .of_none fun _ member => nomatch member
  | located found clean valid =>
    refine .of_some (Region.tells_iff.mpr rfl) rfl (Scene.drawn_copiesItself ?_)
      (fun _ member => nomatch member)
      fun _ member => nomatch member
    simp +decide [Metadata.forall_actions_iff, describeLocated, openAction, copyEntry,
      MenuEntry.ofAction, MenuEntry.action?]
  | refusedLocated found clean invalid => exact .of_none fun _ member => nomatch member
  | bare found valid =>
    refine .of_some (Region.tells_iff.mpr rfl) rfl (Scene.drawn_copiesItself ?_)
      (fun other offered => (wayBack_adds offered).2) fun other offered => ?_
    · simp +decide [Metadata.forall_actions_iff, describeBare, copyEntry, MenuEntry.ofAction,
        MenuEntry.action?]
    · rw [(wayBack_adds offered).1]
      exact Nat.lt_succ_self number
  | refusedBare found invalid => exact .of_none fun _ member => nomatch member
  | plain found => exact .of_none fun _ offered => (wayBack_adds offered).2

/-- One more region keeps regions coherent if it leads to the first error among them, if at all. -/
theorem Coherent.snoc {region : Region} (coherent : Coherent made)
    (sorts : region.isReport = true ∨ region.LeadsBack) (copies : region.CopiesItself)
    (leads : region.LeadsBack → ∃ error, firstError? made = some error ∧
      error.id.number < region.id.number ∧ region.LeadsTo error.id) :
    Coherent (made ++ [region]) where
  -- The new region stands behind all others, so what they led to is still in front of them.
  sorts := by
    intro other member
    rcases List.mem_append.mp member with before | new
    · exact coherent.sorts other before
    · rw [List.mem_singleton.mp new]
      exact sorts
  copies := by
    intro other member
    rcases List.mem_append.mp member with before | new
    · exact coherent.copies other before
    · rw [List.mem_singleton.mp new]
      exact copies
  leads := by
    intro front other back split
    -- Either it is the new region that leads back, or one that was there before.
    rcases List.eq_nil_or_concat back with rfl | ⟨behind, last, rfl⟩
    · obtain ⟨rfl, same⟩ := List.append_inj' split rfl
      cases same
      exact leads
    · rw [List.concat_eq_append, ← List.cons_append, ← List.append_assoc] at split
      exact coherent.leads front other behind (List.append_inj' split rfl).1

/-- A report is the first error if it is an error and none was made before. -/
theorem firstError?_append_report (made : List Region) (report : Option Region) :
    firstError? (made ++ report.toList) =
      (firstError? made).or (report.filter fun region => region.Tells .error) := by
  -- The search for the first error goes on in the report.
  rw [firstError?, firstError?, List.find?_append]
  cases report with
  | none => rfl
  | some region =>
    by_cases tells : region.Tells .error
    · simp [tells, Option.filter]
    · simp [tells, Option.filter]

/-- What leads back is no error. -/
theorem firstError?_append_jump (made : List Region) (leads : ∀ region ∈ jump, region.LeadsBack) :
    firstError? (made ++ jump.toList) = firstError? made := by
  -- The search passes over what leads back.
  cases jump with
  | none => rw [Option.toList_none, List.append_nil]
  | some region =>
    have other := (leads region rfl).not_tells .error
    simp [firstError?, other]

/-- The last line of which a report was made is the new one, or the one that was the last before. -/
theorem lastReport?_concat (log : List Passage) (passage : Passage) :
    lastReport? (log ++ [passage]) =
      if passage.made.any (·.isReport) then some passage else lastReport? log := by
  -- The search begins with the new line.
  unfold lastReport?
  rw [List.reverse_append, List.reverse_singleton, List.singleton_append, List.find?_cons]
  cases passage.made.any (·.isReport) <;> rfl

/-- The regions of one more line come behind all others. -/
theorem allMade_concat (log : List Passage) (passage : Passage) :
    allMade (log ++ [passage]) = allMade log ++ passage.made := by
  -- They are collected in the order of the lines.
  rw [allMade, List.flatMap_append, List.flatMap_singleton]
  rfl

/-- What is remembered fits the lines that were taken. -/
structure Remembers (log : List Passage) (next : Nat) (progress : Progress) : Prop where
  /-- The regions were made under earlier numbers. -/
  earlier : ∀ region ∈ allMade log, region.id.number < next
  /-- The first error is the first one that was marked. -/
  firstError : progress.firstError = (firstError? (allMade log)).map Region.id
  /-- The regions are coherent. -/
  coherent : Coherent (allMade log)
  /-- The row is the one in which the last report ends. -/
  lastRow : ∀ passage, lastReport? log = some passage → progress.lastRow = passage.line.endRow

/-- At first there is nothing to remember. -/
theorem Remembers.start (next : Nat) : Remembers [] next {} where
  -- No line was taken and nothing was made.
  earlier _ member := nomatch member
  firstError := rfl
  coherent := by
    constructor
    · exact fun _ member => nomatch member
    · exact fun _ member => nomatch member
    · intro front region back split
      simp [allMade] at split
  lastRow _ found := nomatch found

/-- What a line adds keeps regions coherent, since the report comes before the way back. -/
theorem Coherent.adds (coherent : Coherent made) (adds : Adds line progress report jump next)
    (remembered : next.firstError = (firstError? (made ++ report.toList)).map Region.id)
    (behind : ∀ region ∈ made, ∀ other ∈ jump, region.id.number < other.id.number) :
    Coherent (made ++ (report.toList ++ jump.toList)) := by
  -- The report is put behind the regions there are, and the way back behind the report.
  rw [← List.append_assoc]
  have reported : Coherent (made ++ report.toList) := by
    cases report with
    | none => simpa using coherent
    | some region =>
      obtain ⟨isReport, copies⟩ := adds.reports region rfl
      refine coherent.snoc (.inl isReport) copies fun leads => ?_
      rw [leads.not_report] at isReport
      cases isReport
  cases jump with
  | none => simpa using reported
  | some region =>
    obtain ⟨leads, copies, target, held, leadsTo⟩ := adds.leads region rfl
    -- The way back leads to the first error among them, as that is what is remembered.
    refine reported.snoc (.inr leads) copies fun _ => ?_
    obtain ⟨error, found, rfl⟩ := Option.map_eq_some_iff.mp (remembered.symm.trans held)
    refine ⟨error, found, ?_, leadsTo⟩
    rcases List.mem_append.mp (List.mem_of_find?_eq_some found) with before | here
    · exact behind error before region rfl
    · exact adds.order error (Option.mem_toList.mp here) region rfl

/-- A line counts for the last report exactly if a report is made of it. -/
theorem Adds.any_isReport (adds : Adds line progress report jump next) :
    (report.toList ++ jump.toList).any (·.isReport) = report.isSome := by
  -- What leads back is no report, so only the report counts.
  have noReport : jump.toList.any (·.isReport) = false := by
    rw [List.any_eq_false]
    intro region member
    rw [(adds.leads region (Option.mem_toList.mp member)).1.not_report]
    exact Bool.false_ne_true
  rw [List.any_append, noReport, Bool.or_false]
  cases report with
  | none => rfl
  | some region => simp [(adds.reports region rfl).1]

/-- A line that is taken keeps what is remembered right. -/
theorem Remembers.take {log : List Passage} {first last : Nat}
    (remembers : Remembers log first progress) (adds : Adds line progress report jump next)
    (numbered : ∀ region ∈ report.toList ++ jump.toList,
      first ≤ region.id.number ∧ region.id.number < last) (grown : first ≤ last) :
    Remembers (log ++ [⟨line, report.toList ++ jump.toList⟩]) last next := by
  -- Each part of what is remembered is followed through the report and then the way back.
  have leadsBack : ∀ region ∈ jump, region.LeadsBack := fun region member =>
    (adds.leads region member).1
  have withReport := firstError?_append_report (allMade log) report
  have remembered : next.firstError =
      (firstError? (allMade log ++ report.toList)).map Region.id := by
    rw [adds.firstError, remembers.firstError, withReport, Option.map_or]
  constructor
  · intro region member
    rw [allMade_concat] at member
    rcases List.mem_append.mp member with before | new
    · exact Nat.lt_of_lt_of_le (remembers.earlier region before) grown
    · exact (numbered region new).2
  · -- What leads back does not change which error was the first.
    rw [allMade_concat, ← List.append_assoc, firstError?_append_jump _ leadsBack, remembered]
  · rw [allMade_concat]
    -- Whatever was made before has a smaller number.
    refine remembers.coherent.adds adds remembered fun region before other member => ?_
    have old := remembers.earlier region before
    have new := (numbered other (List.mem_append_right _ (Option.mem_toList.mpr member))).1
    omega
  · -- Only a report moves the last row.
    intro passage found
    rw [lastReport?_concat, adds.any_isReport] at found
    rw [adds.lastRow]
    by_cases reported : report.isSome = true
    · rw [if_pos reported] at found ⊢
      cases found
      rfl
    · rw [if_neg reported] at found ⊢
      exact remembers.lastRow passage found

/-- After every run what is remembered fits the lines that were taken. -/
theorem Reaches.remembers {log : List Passage} {last : Nat}
    (reaches : Reaches site launcher log last progress) : Remembers log last progress := by
  -- Induction on the run, as each line adds what it yields to what is remembered.
  induction reaches with
  | start next => exact .start next
  | @line log next progress earlier scene line current table later outcome ran ih =>
    subst ran
    obtain ⟨report, jump, yields, regions⟩ := onLine_yields current progress table
    -- The regions of the line are numbered from where the table stood.
    have continues : ((onLine site launcher line progress).run scene { table }).desk.Continues
        (fun _ => True) table :=
      Program.run_continues (fun _ _ => trivial) _
        ⟨RegionTable.Grows.refl _ table, fun _ held => nomatch held⟩
    obtain ⟨numbers, created, same, fits⟩ := continues.table
    have made : created = report.toList ++ jump.toList :=
      List.append_cancel_left (same.symm.trans regions)
    rw [RegionTable.since_append regions]
    refine ih.take yields.adds (fun region member => ?_) (Nat.le_trans later numbers)
    have bounds := (fits region (made ▸ member)).2
    exact ⟨Nat.le_trans later bounds.1, bounds.2⟩

/-- The way back that is offered on the last row. -/
def lastWayBack (scene : Scene) (totalRows : Nat) (progress : Progress) (number : Nat) :
    Option Region :=
  -- Rows that were never received do not count.
  let rows := min totalRows scene.rows.size
  if progress.lastRow + 1 < rows then
    progress.firstError.map fun firstError =>
      scene.drawn ⟨number⟩ ⟨rows - 1, 0⟩ ⟨rows, 0⟩ (describeJump firstError)
  else none

/-- There is a way back on the last row if there is an error and the last report ends before it. -/
theorem isSome_lastWayBack {totalRows : Nat} :
    (lastWayBack scene totalRows progress number).isSome = true ↔
      progress.firstError.isSome = true ∧ progress.lastRow + 1 < min totalRows scene.rows.size := by
  -- The row is asked for first, and then the error.
  unfold lastWayBack
  dsimp only
  by_cases behind : progress.lastRow + 1 < min totalRows scene.rows.size
  · rw [if_pos behind, Option.isSome_map, and_iff_left behind]
  · rw [if_neg behind]
    exact ⟨fun offered => Bool.noConfusion offered, fun both => absurd both.2 behind⟩

/-- The way back on the last row leads to the error that is remembered, over that row. -/
theorem lastWayBack_leads {totalRows : Nat} {region : Region}
    (offered : region ∈ lastWayBack scene totalRows progress number) :
    region.id = ⟨number⟩ ∧ region.LeadsBack ∧ region.CopiesItself ∧
      region.start = ⟨min totalRows scene.rows.size - 1, 0⟩ ∧
      region.stop = ⟨min totalRows scene.rows.size, 0⟩ ∧
      ∃ target, progress.firstError = some target ∧ region.LeadsTo target := by
  -- If it is offered at all, it is the region that was described.
  unfold lastWayBack at offered
  dsimp only at offered
  split at offered
  · obtain ⟨target, held, rfl⟩ := Option.map_eq_some_iff.mp offered
    refine ⟨rfl, rfl, Scene.drawn_copiesItself describeJump_copies, rfl, rfl, target, held, rfl⟩
  · cases offered

/-- Finishing never fails, and makes the way back at most. -/
theorem onFinish_run (scene : Scene) (totalRows : Nat) (progress : Progress)
    (table : RegionTable) :
    let outcome := (onFinish scene.view totalRows progress).run scene { table }
    outcome.value.answer = .ok () ∧ outcome.desk.table.regions =
      table.regions ++ (lastWayBack scene totalRows progress table.nextId).toList := by
  -- The last row that counts was received, so a region over it is granted.
  dsimp only
  unfold onFinish lastWayBack
  have received : min totalRows scene.rows.size ≤ scene.rows.size := Nat.min_le_right _ _
  have seen : scene.view.rowCount = scene.rows.size := rfl
  rw [seen]
  cases progress.firstError with
  | none =>
    refine ⟨rfl, ?_⟩
    simp [Program.run]
  | some firstError =>
    by_cases behind : progress.lastRow + 1 < min totalRows scene.rows.size
    · dsimp only
      rw [if_pos behind, if_pos behind, Program.run_createAt
        (Scene.holds_rowStart (by omega)) (Scene.holdsEnd_rowStart received) (.inl (by
          show min totalRows scene.rows.size - 1 < min totalRows scene.rows.size
          omega)) (validate_describeJump firstError)]
      exact ⟨rfl, rfl⟩
    · dsimp only
      rw [if_neg behind, if_neg behind]
      refine ⟨rfl, ?_⟩
      simp [Program.run]

/-- An error is a report, so there is a last one. -/
theorem exists_lastReport? {log : List Passage} (erred : firstError? (allMade log) ≠ none) :
    ∃ passage, lastReport? log = some passage := by
  -- The first error was made of some line, and makes it a line with a report.
  obtain ⟨error, found⟩ := Option.ne_none_iff_exists'.mp erred
  obtain ⟨passage, taken, member⟩ := List.mem_flatMap.mp (List.mem_of_find?_eq_some found)
  have isError := List.find?_some found
  rw [← Option.isSome_iff_exists]
  unfold lastReport?
  rw [List.find?_isSome]
  exact ⟨passage, List.mem_reverse.mpr taken,
    List.any_eq_true.mpr ⟨error, member, Region.isReport_of_tells (of_decide_eq_true isError)⟩⟩

/--
Over every run the first error that was marked is remembered, reports copy themselves, and every way
back leads to that error from behind it.

At the end there is a way back on the last row that counts, exactly if there is an error and the
last report ends in front of that row.
-/
theorem first_error_remembered {log : List Passage} {last : Nat}
    (reaches : Reaches site launcher log last progress) (scene : Scene) {table : RegionTable}
    (later : last ≤ table.nextId) (totalRows : Nat) :
    let rows := min totalRows scene.rows.size
    let finish := (onFinish scene.view totalRows progress).run scene { table }
    progress.firstError = (firstError? (allMade log)).map Region.id ∧
      finish.value.answer = .ok () ∧
      ∃ closing : Option Region, finish.desk.table.regions = table.regions ++ closing.toList ∧
        Coherent (allMade log ++ closing.toList) ∧
        (closing.isSome = true ↔ progress.firstError.isSome = true ∧ 1 ≤ rows ∧
          ∃ passage, lastReport? log = some passage ∧ passage.line.endRow < rows - 1) ∧
        ∀ region ∈ closing, region.LeadsBack ∧ region.start = ⟨rows - 1, 0⟩ ∧
          region.stop = ⟨rows, 0⟩ := by
  -- What is remembered after the run decides what finishing offers.
  intro rows finish
  have remembers := reaches.remembers
  obtain ⟨answer, regions⟩ := onFinish_run scene totalRows progress table
  refine ⟨remembers.firstError, answer, _, regions, ?_, ?_, ?_⟩
  · -- The closing region is one more that leads back, under a later number than the error.
    cases closing : lastWayBack scene totalRows progress table.nextId with
    | none => simpa using remembers.coherent
    | some region =>
      obtain ⟨named, leads, copies, _, _, target, held, leadsTo⟩ := lastWayBack_leads closing
      refine remembers.coherent.snoc (.inr leads) copies fun _ => ?_
      obtain ⟨error, found, rfl⟩ := Option.map_eq_some_iff.mp (remembers.firstError.symm.trans held)
      refine ⟨error, found, ?_, leadsTo⟩
      have old := remembers.earlier error (List.mem_of_find?_eq_some found)
      rw [named]
      exact Nat.lt_of_lt_of_le old later
  · -- The last report is remembered by the row in which it ends.
    rw [isSome_lastWayBack]
    refine and_congr_right fun erred => ?_
    have found : firstError? (allMade log) ≠ none := by
      intro none
      rw [remembers.firstError, none] at erred
      cases erred
    obtain ⟨passage, reported⟩ := exists_lastReport? found
    rw [remembers.lastRow passage reported]
    constructor
    · intro behind
      exact ⟨by omega, passage, reported, by omega⟩
    · rintro ⟨some, other, also, before⟩
      cases reported.symm.trans also
      omega
  · intro region offered
    obtain ⟨_, leads, _, start, stop, _⟩ := lastWayBack_leads offered
    exact ⟨leads, start, stop⟩

/-- After an error on the first of three rows there is a way back to it on the last one. -/
theorem first_error_remembered_once :
    let site : Site :=
      { command := "make", server := "srv-1", terminal := "term-1", host := "", baseDir := "/w/" }
    let line : LogicalLine := { startRow := 0, first := "ld: undefined reference to x" }
    let scene : Scene :=
      { invocation := ⟨1⟩, matcher := matcherName, limits := {}
        rows := #[line.text, "", "make: *** [all] Error 2"], line := some line }
    let outcome := (onLine site "gedit" line {}).run scene { table := {} }
    let table := outcome.desk.table
    let log : List Passage := [⟨line, RegionTable.since {} table⟩]
    let progress := outcome.value.state
    progress.firstError = some ⟨1⟩ ∧ Reaches site "gedit" log table.nextId progress ∧
      table.nextId ≤ table.nextId ∧
      let rows := min 3 scene.rows.size
      let finish := (onFinish scene.view 3 progress).run scene { table }
      finish.desk.table.regions.map
          (fun region => (region.id, region.metadata.icon, region.start, region.stop)) =
        [(⟨1⟩, some "error", ⟨0, 4⟩, ⟨0, 28⟩), (⟨2⟩, some "go-up", ⟨2, 0⟩, ⟨3, 0⟩)] ∧
      progress.firstError = (firstError? (allMade log)).map Region.id ∧
        finish.value.answer = .ok () ∧
        ∃ closing : Option Region, finish.desk.table.regions = table.regions ++ closing.toList ∧
          Coherent (allMade log ++ closing.toList) ∧
          (closing.isSome = true ↔ progress.firstError.isSome = true ∧ 1 ≤ rows ∧
            ∃ passage, lastReport? log = some passage ∧ passage.line.endRow < rows - 1) ∧
          ∀ region ∈ closing, region.LeadsBack ∧ region.start = ⟨rows - 1, 0⟩ ∧
            region.stop = ⟨rows, 0⟩ := by
  -- The run of one line is computed, and the law applied behind it.
  intro site line scene outcome table log progress
  have erred : progress.firstError = some ⟨1⟩ := by decide +kernel
  have current : scene.line = some line := rfl
  have fresh : 1 ≤ RegionTable.nextId {} := Nat.le_refl 1
  have ran : (onLine site "gedit" line {}).run scene { table := {} } = outcome := rfl
  have reaches : Reaches site "gedit" log table.nextId progress :=
    .line (.start 1) current fresh ran
  have later : table.nextId ≤ table.nextId := Nat.le_refl _
  exact ⟨erred, reaches, later, by decide +kernel, first_error_remembered reaches scene later 3⟩

end Make

end Annotator

import Annotator.Proofs.Tracker.Part
import Annotator.Proofs.WorkTree.Faultless
import Annotator.Proofs.WorkTree.FileLine
import Annotator.Proofs.WorkTree.Section

/-! The status matcher marks the file lines of each section, and nothing else. -/

namespace Annotator

namespace WorkTree

/-- The status matcher of a site when it has reached a section. -/
def matcher (site : Site) (current : Option Section) : Matcher :=
  -- It is built before the first heading.
  { State := Option Section, machine := machine site, state := current }

/-- The section that a line of the status stands in, given the one in front of it. -/
def pass (current : Option Section) (line : LogicalLine) : Option Section :=
  -- A heading stands in the section that it opens.
  (Section.ofHeading? line.text.toList).or current

/--
What is marked of a line that stands in some section.

The final word part of the line is marked if the line names a file, and the menu offers what can be
done with a file of the section.
-/
structure Marks (site : Site) (line : LogicalLine) (standsIn : Section → Prop)
    (mark : Option Region) : Prop where
  /-- Exactly the file lines behind a heading are marked, if the name may enter an action. -/
  present : mark.isSome = true ↔ (∀ part : Section, ¬ part.Opens line.text.toList) ∧
    (∃ part, standsIn part) ∧
      ∃ name, FileLine.Reads line.text.toList name ∧ hasReserved (String.ofList name) = false
  /-- The mark begins where the final word part does. -/
  start : ∀ region ∈ mark, region.start =
    line.position (line.length - Text.byteLength (Text.lastRun line.text.toList))
  /-- It ends with the line. -/
  stop : ∀ region ∈ mark, region.stop = line.position line.length
  /-- Activating it opens the file of that name in the directory. -/
  opens : ∀ region ∈ mark, region.metadata.primaryAction =
    some { name := "OpenFile"
           args := [.value "", .value site.server,
             .value (site.baseDir ++ String.ofList (Text.lastRun line.text.toList))] }
  /-- Only staged files can be unstaged. -/
  reset : ∀ region ∈ mark, "Reset File" ∈ region.metadata.menuLabels ↔ standsIn .staged
  /-- Only files with changes that are not staged can be added. -/
  add : ∀ region ∈ mark, "Add File" ∈ region.metadata.menuLabels ↔
    standsIn .modified ∨ standsIn .conflicted ∨ standsIn .untracked
  /-- The same files can be checked out. -/
  checkout : ∀ region ∈ mark, "Checkout File" ∈ region.metadata.menuLabels ↔
    standsIn .modified ∨ standsIn .conflicted ∨ standsIn .untracked

variable {site : Site} {current : Option Section} {line : LogicalLine}

/-- A line without a mark is one that names no file of a section. -/
theorem Marks.nothing {standsIn : Section → Prop}
    (unnamed : (∀ part : Section, ¬ part.Opens line.text.toList) → (∃ part, standsIn part) →
      ∀ name, FileLine.Reads line.text.toList name → hasReserved (String.ofList name) = true) :
    Marks site line standsIn none where
  -- Nothing is asked of a region that is not there.
  present := by
    simp only [Option.isSome_none, Bool.false_eq_true, false_iff]
    rintro ⟨plain, inside, name, reads, clean⟩
    rw [unnamed plain inside name reads] at clean
    cases clean
  start := fun _ member => nomatch member
  stop := fun _ member => nomatch member
  opens := fun _ member => nomatch member
  reset := fun _ member => nomatch member
  add := fun _ member => nomatch member
  checkout := fun _ member => nomatch member

/-- A file is read exactly from a file line of a section whose name may enter an action. -/
theorem read_eq_file_iff {line : List Char} {part : Section} {name : List Char} :
    read current line = .file part name ↔ (∀ other : Section, ¬ other.Opens line) ∧
      current = some part ∧ FileLine.Reads line name ∧
        hasReserved (String.ofList name) = false := by
  -- A line is read as a file behind a heading, if it is none itself and its name is clean.
  rw [← Section.ofHeading?_eq_none_iff, ← FileLine.name?_eq_some_iff]
  unfold read
  cases Section.ofHeading? line with
  | some other => simp
  | none =>
    cases current with
    | none => simp
    | some here =>
      cases named : FileLine.name? line with
      | none => simp
      | some found =>
        dsimp only
        constructor
        · intro reading
          split at reading
          · cases reading
          · rename_i clean
            cases reading
            exact ⟨rfl, rfl, rfl, by simpa using clean⟩
        · rintro ⟨_, ⟨⟩, ⟨⟩, clean⟩
          simp [clean]

/-- A line is read as a heading exactly if it is one. -/
theorem read_eq_heading_iff {line : List Char} {part : Section} :
    read current line = .heading part ↔ Section.ofHeading? line = some part := by
  -- Headings come before everything else.
  unfold read
  cases Section.ofHeading? line with
  | some other => simp
  | none =>
    simp only [reduceCtorEq, iff_false]
    split
    · split <;> simp
    · simp

/-- The actions that are offered for a file of a section, before those for its directory. -/
def fileLabels : Section → List String
  -- Files that are ignored are left alone.
  | .staged => ["Reset File"]
  | .modified | .conflicted | .untracked => ["Add File", "Checkout File"]
  | .ignored => []

/-- If there is room for all entries, all actions about a file are offered. -/
theorem menuLabels_describeFile (site : Site) (part : Section) (file : String) {limits : Limits}
    (room : 12 ≤ limits.menuEntries) :
    ((describeFile site part file).limited limits).menuLabels = fileLabels part ++
      ["Add Directory", "Reset Directory", "Checkout Directory", "Reset Hard"] := by
  -- With room for twelve entries nothing of the menu is cut.
  have short : (describeFile site part file).menu.length ≤ limits.menuEntries := by
    refine Nat.le_trans ?_ room
    cases part <;> simp [describeFile, fileEntries, directoryEntries]
  rw [Metadata.limited, Metadata.menuLabels, List.take_of_length_le short]
  cases part <;> rfl

/-- The file line of a section is marked by one region over its final word part. -/
theorem marks_drawn {scene : Scene} (room : 12 ≤ scene.limits.menuEntries) {part : Section}
    {name : List Char} (reading : read current line.text.toList = .file part name)
    (id : RegionId) :
    Marks site line (fun other => some part = some other)
      (some (scene.drawn id (line.position (line.length - Text.byteLength name))
        (line.position line.length) (describeFile site part (String.ofList name)))) := by
  -- The name is the last run of the line, and the labels are fixed for each section.
  obtain ⟨plain, _, reads, clean⟩ := read_eq_file_iff.mp reading
  have run := reads.lastRun
  have labels := menuLabels_describeFile site part (String.ofList name) room
  refine ⟨?_, ?_, ?_, ?_, ?_, ?_, ?_⟩
  · exact iff_of_true rfl ⟨plain, ⟨part, rfl⟩, name, reads, clean⟩
  · rintro region ⟨⟩
    rw [run]
    rfl
  · rintro region ⟨⟩
    rfl
  · rintro region ⟨⟩
    rw [run]
    rfl
  · rintro region ⟨⟩
    rw [Scene.drawn, labels]
    cases part <;> decide
  · rintro region ⟨⟩
    rw [Scene.drawn, labels]
    cases part <;> decide
  · rintro region ⟨⟩
    rw [Scene.drawn, labels]
    cases part <;> decide

/-- A line is passed without failing, and is marked by at most one region. -/
theorem takeLine_marks (server : hasReserved site.server = false)
    (directory : hasReserved site.baseDir = false) {scene : Scene} (held : scene.line = some line)
    (room : 12 ≤ scene.limits.menuEntries) {nextId : Nat} {handled : Handled Flow}
    {table : RegionTable}
    (taken : (matcher site current).takeLine scene { nextId } line = (handled, table)) :
    handled.matcher = matcher site (pass current line) ∧ handled.answer = .ok .proceed ∧
      ∃ mark : Option Region, table.regions = mark.toList ∧
        Marks site line (fun part => pass current line = some part) mark := by
  -- One case for each way in which a line is read.
  unfold Matcher.takeLine Matcher.handle at taken
  dsimp only [matcher, machine] at taken
  cases reading : read current line.text.toList with
  | heading part =>
    have opened := read_eq_heading_iff.mp reading
    rw [reading] at taken
    cases taken
    refine ⟨by rw [pass, opened]; rfl, rfl, none, rfl, .nothing fun plain _ _ _ => ?_⟩
    exact absurd (Section.ofHeading?_eq_some_iff.mp opened) (plain part)
  | other =>
    have plain : Section.ofHeading? line.text.toList = none :=
      Option.eq_none_iff_forall_ne_some.mpr fun part opened => by
        rw [read_eq_heading_iff.mpr opened] at reading
        cases reading
    have same : pass current line = current := by rw [pass, plain, Option.none_or]
    rw [reading] at taken
    cases taken
    rw [same]
    refine ⟨rfl, rfl, none, rfl, .nothing fun unopened inside name reads => ?_⟩
    obtain ⟨part, here⟩ := inside
    -- Only a name with a reserved character is passed over here.
    rw [← Bool.not_eq_false]
    intro clean
    rw [read_eq_file_iff.mpr ⟨unopened, here, reads, clean⟩] at reading
    cases reading
  | file part name =>
    obtain ⟨unopened, rfl, _, clean⟩ := read_eq_file_iff.mp reading
    have same : pass (some part) line = some part := by
      rw [pass, Section.ofHeading?_eq_none_iff.mpr unopened, Option.none_or]
    obtain ⟨id, made, created⟩ := Scene.createOnLine_granted held
      (byteLength_le_of_read_file reading).2 (validate_describeFile server directory part clean)
      { table := { nextId } }
    rw [reading] at taken
    simp only [Program.run, created, Desk.settle] at taken
    cases taken
    obtain ⟨_, held', _, placed⟩ := Scene.createOnLine_eq_ok created
    rw [held] at held'
    cases held'
    obtain ⟨_, _, rfl⟩ := Scene.place_eq_ok_iff.mp placed
    rw [same]
    exact ⟨rfl, rfl, some _, rfl, marks_drawn room reading id⟩

/-- The section that a line of several stands in, given the one in front of them. -/
def sectionAt (current : Option Section) (lines : List LogicalLine) (place : Nat) :
    Option Section :=
  -- The line at the place counts as well.
  Section.after current ((lines.take (place + 1)).map (·.text.toList))

/-- At the first line, the section is the one that this line leads to. -/
theorem sectionAt_zero (current : Option Section) (line : LogicalLine) (rest : List LogicalLine) :
    sectionAt current (line :: rest) 0 = pass current line := by
  -- Only the first line is passed.
  simp only [sectionAt, List.take_succ_cons, List.take_zero, List.map_cons, List.map_nil,
    Section.after, List.foldl_cons, List.foldl_nil, pass]

/-- At a later line, the section is counted from where the first line leads to. -/
theorem sectionAt_succ (current : Option Section) (line : LogicalLine) (rest : List LogicalLine)
    (place : Nat) :
    sectionAt current (line :: rest) (place + 1) = sectionAt (pass current line) rest place := by
  -- The first line is passed before the others.
  simp only [sectionAt, List.take_succ_cons, List.map_cons, Section.after, List.foldl_cons, pass]

variable {id : InvocationId} {limits : Limits} {received : List String} {last : Matcher}
  {turns : List Turn} {attendance : Attendance}

/-- Finishing marks nothing. -/
theorem finish_silent (scene : Scene) (nextId totalRows : Nat) :
    ((matcher site current).finish scene { nextId } totalRows).2.regions = [] :=
  -- The last hook of the status matcher asks for nothing.
  rfl

/-- The lines that are given are passed one after the other, and each is marked as it should be. -/
theorem made_lines (server : hasReserved site.server = false)
    (directory : hasReserved site.baseDir = false) (room : 12 ≤ limits.menuEntries)
    {lines : List LogicalLine}
    (enacts : Matcher.Enacts id limits received matcherName (matcher site current) turns last)
    (follows : turns.map (·.call) = attendance.takingCalls lines (turns.map (·.verdict))) :
    ∃ marks : List (Option Region), turns.flatMap Turn.made = marks.flatMap Option.toList ∧
      marks.length = lines.length ∧
      ∀ place line mark, lines[place]? = some line → marks[place]? = some mark →
        Marks site line (fun part => sectionAt current lines place = some part) mark := by
  -- Induction on the lines, as each is taken in the section that the earlier ones lead to.
  induction lines generalizing current turns with
  | nil =>
    exact ⟨[], enacts.made_finish finish_silent follows, rfl, fun _ _ _ found => nomatch found⟩
  | cons line rest ih =>
    obtain ⟨rows, nextId, handled, table, turns, taken, later, split, behind⟩ :=
      enacts.behind_line follows
    obtain ⟨passed, answer, mark, made, marked⟩ := takeLine_marks server directory rfl room taken
    rw [passed] at later
    rw [answer] at behind
    obtain ⟨marks, madeLater, length, markedLater⟩ := ih later behind
    refine ⟨mark :: marks, ?_, congrArg (· + 1) length, fun place other found here there => ?_⟩
    · rw [split, List.flatMap_cons, madeLater, made]
    · cases place with
      | zero =>
        cases here
        cases there
        simp only [sectionAt_zero]
        exact marked
      | succ place =>
        simp only [sectionAt_succ]
        exact markedLater place other found here there

/-- A matcher that is started with a chance of success passes all lines. -/
theorem made_invocation (server : hasReserved site.server = false)
    (directory : hasReserved site.baseDir = false) (room : 12 ≤ limits.menuEntries)
    (enacts : Matcher.Enacts id limits received matcherName (matcher site none) turns last)
    (follows : turns.map (·.call) = attendance.calls (turns.map (·.verdict)))
    (started : ∃ invocation, attendance.startedWith? = some invocation ∧
      invocation.mayHaveSucceeded = true) :
    ∃ marks : List (Option Region), turns.flatMap Turn.made = marks.flatMap Option.toList ∧
      marks.length = attendance.life.lines.length ∧
      ∀ place line mark, attendance.life.lines[place]? = some line → marks[place]? = some mark →
        Marks site line
          (Section.Governs ((attendance.life.lines.take (place + 1)).map (·.text.toList)))
          mark := by
  -- The matcher wants lines as the command may have succeeded, and begins outside every section.
  obtain ⟨invocation, starts, succeeds⟩ := started
  obtain ⟨rest, later, made, behind⟩ := enacts.behind_start follows starts
  have answer : ((matcher site none).start invocation).answer = .ok true :=
    congrArg Except.ok succeeds
  rw [answer] at behind
  obtain ⟨marks, madeLines, length, marked⟩ := made_lines server directory room later behind
  refine ⟨marks, made.trans madeLines, length, fun place line mark here there => ?_⟩
  have governs : (fun part => sectionAt none attendance.life.lines place = some part) =
      Section.Governs ((attendance.life.lines.take (place + 1)).map (·.text.toList)) :=
    funext fun part => propext Section.after_eq_some_iff
  exact governs ▸ marked place line mark here there

end WorkTree

open WorkTree in
/--
The regions of the status matcher are those of the file lines behind a heading: if the status
succeeds, each line is marked as its text and the last heading up to it tell.

The matcher may be registered under any settings and beside any others, and the regions may be
evicted at any time.
-/
theorem status_marked {registry : Registry} (registered : registry.Registered)
    {settings : MatcherSettings} (member : factory settings ∈ registry.factories)
    (deferBuffered : Bool) {limits : Limits} (room : 12 ≤ limits.menuEntries)
    (before : List Operation) {invocation : Invocation}
    (server : hasReserved invocation.server = false)
    (hopeful : invocation.exitCode = none ∨ invocation.exitCode = some 0)
    (after : List Operation) {totalRows : Nat} :
    let start := Tracker.ofRegistry registry deferBuffered limits
    let id := (start.course before).tracker.upcoming
    let operations := before ++ .begin invocation :: after
    let life := Life.after id invocation after
    matcherName ∈ (registry.resolve id invocation).1.map (·.name) →
    life.ending = .finished 0 totalRows →
      ∃ marks : List (Option Region),
        ((start.course operations).tracker.table.forInvocation id).filter
            (·.matcher == matcherName) =
          (marks.flatMap Option.toList).filter (fun region => !start.evicted operations region) ∧
        marks.length = life.lines.length ∧
        ∀ place line mark, life.lines[place]? = some line → marks[place]? = some mark →
          Marks (Registry.siteOf invocation) line
            (Section.Governs ((life.lines.take (place + 1)).map (·.text.toList))) mark := by
  -- The part of the matcher in the course is singled out, and its hooks see the lines of the life.
  intro start id operations life attaches ends
  obtain ⟨notes, built, turns, last, accepts, created, enacts, follows, own⟩ :=
    Tracker.exists_part registered member deferBuffered limits before invocation after attaches
  cases created
  have kept : life.invocation = invocation := Life.after_invocation id invocation after
  have starts := Attendance.startedWith?_finished
    { id, waits := !(factory settings).fast && deferBuffered
      finishPolicy := (factory settings).finishPolicy, life } ends
  dsimp only at starts
  rw [kept] at starts
  -- Whether it waits or not, it is started with a chance of success.
  have succeeds : (if !(factory settings).fast && deferBuffered then
      { invocation with exitCode := some 0 } else invocation).mayHaveSucceeded = true := by
    split
    · rfl
    · rcases hopeful with exit | exit <;> simp [Invocation.mayHaveSucceeded, exit]
  obtain ⟨marks, made, length, marked⟩ := made_invocation server (hasReserved_baseDir accepts) room
    enacts follows ⟨_, starts, succeeds⟩
  refine ⟨marks, ?_, length, marked⟩
  rw [← made]
  exact own

open WorkTree in
/--
A staged file is marked under its new name, and one of the next section is offered other actions.

A file that was marked before the regions were evicted is marked no longer.
-/
theorem status_marked_renamed :
    let settings : MatcherSettings := { fast := some true }
    let registry : Registry := { factories := [factory settings] }
    let invocation : Invocation :=
      { command := "git status", workingDir := "/w", server := "srv-1" }
    let after : List Operation :=
      [.pushRow ⟨1⟩ "  Changes to be committed: 1" false,
        .pushRow ⟨1⟩ "        deleted:    old.txt" false, .evictInvocation ⟨1⟩,
        .pushRow ⟨1⟩ "        renamed:    a.txt -> b.txt" false,
        .pushRow ⟨1⟩ "Untracked files:" false, .pushRow ⟨1⟩ "        c.txt" false,
        .pushRow ⟨1⟩ "no file" false, .finish ⟨1⟩ 0 6]
    registry.Registered ∧ factory settings ∈ registry.factories ∧
      12 ≤ ({} : Limits).menuEntries ∧ hasReserved invocation.server = false ∧
      (invocation.exitCode = none ∨ invocation.exitCode = some 0) ∧
      let start := Tracker.ofRegistry registry true {}
      let id := (start.course []).tracker.upcoming
      let operations := [] ++ .begin invocation :: after
      let life := Life.after id invocation after
      let regions := ((start.course operations).tracker.table.forInvocation id).filter
        (·.matcher == matcherName)
      let opening (path : String) : Option Action := some
        { name := "OpenFile", args := [.value "", .value "srv-1", .value path] }
      matcherName ∈ (registry.resolve id invocation).1.map (·.name) ∧
      life.ending = .finished 0 6 ∧
        regions.map (fun region => (region.start, region.stop, region.metadata.primaryAction)) =
          [(⟨2, 29⟩, ⟨2, 34⟩, opening "/w/b.txt"), (⟨4, 8⟩, ⟨4, 13⟩, opening "/w/c.txt")] ∧
        regions.map (fun region => region.metadata.menuLabels.take 2) =
          [["Reset File", "Add Directory"], ["Add File", "Checkout File"]] ∧
        ∃ marks : List (Option Region),
          regions =
            (marks.flatMap Option.toList).filter (fun region => !start.evicted operations region) ∧
          marks.length = life.lines.length ∧
          ∀ place line mark, life.lines[place]? = some line → marks[place]? = some mark →
            Marks (Registry.siteOf invocation) line
              (Section.Governs ((life.lines.take (place + 1)).map (·.text.toList))) mark := by
  -- The conditions hold at the six rows, one of which is pushed behind an eviction.
  intro settings registry invocation after
  have registered : registry.Registered := .register .empty (factory settings) rfl
  have member : factory settings ∈ registry.factories := List.mem_singleton_self _
  have room : 12 ≤ ({} : Limits).menuEntries := by decide
  have server : hasReserved invocation.server = false := by decide
  have hopeful : invocation.exitCode = none ∨ invocation.exitCode = some 0 := .inl rfl
  have attaches : matcherName ∈ (registry.resolve ⟨1⟩ invocation).1.map (·.name) := by decide
  have ends : (Life.after ⟨1⟩ invocation after).ending = .finished 0 6 := by decide
  -- The regions that are left are computed from the course itself.
  exact ⟨registered, member, room, server, hopeful, attaches, ends, by decide +kernel,
    by decide +kernel,
    status_marked registered member true room [] server hopeful after attaches ends⟩

end Annotator

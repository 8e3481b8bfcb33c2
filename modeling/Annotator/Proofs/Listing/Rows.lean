import Annotator.Proofs.Hook.Marking
import Annotator.Proofs.Listing.Faultless
import Annotator.Proofs.Listing.Reading
import Annotator.Proofs.Tracker.Part

/-! A listing marks the rows behind a header, and goes no further than to the end of the table. -/

namespace Annotator

namespace Listing

/-- The matcher of a listing in a phase. -/
def matcher (listing : Listing) (site : Site) (phase : ListingPhase) : Matcher :=
  -- It is built before the header has come.
  { State := ListingPhase, machine := listing.machine site, state := phase }

/-- What is marked of a line, given the texts of the lines in front of it. -/
structure Marks (listing : Listing) (site : Site) (limits : Limits) (earlier : List String)
    (line : LogicalLine) (mark : Option Region) : Prop where
  /-- Exactly the lines that list an object are marked. -/
  present : mark.isSome = true ↔ ∃ name, listing.format.Lists earlier line.text name
  /-- The mark begins with the line. -/
  start : ∀ region ∈ mark, region.start = line.position 0
  /-- It ends with the line. -/
  stop : ∀ region ∈ mark, region.stop = line.position line.length
  /-- It offers what the listing offers for the object of that name. -/
  offers : ∀ region ∈ mark, ∀ name, listing.format.Lists earlier line.text name →
    region.metadata = (listing.describe site name).limited limits

/-- A line that lists nothing is left without a region. -/
theorem Marks.nothing {listing : Listing} {site : Site} {limits : Limits} {earlier : List String}
    {line : LogicalLine} (unlisted : ∀ name, ¬ listing.format.Lists earlier line.text name) :
    Marks listing site limits earlier line none where
  -- Nothing is asked of a region that is not there.
  present := ⟨fun present => Bool.noConfusion present, fun ⟨name, lists⟩ =>
    absurd lists (unlisted name)⟩
  start _ member := nomatch member
  stop _ member := nomatch member
  offers _ member := nomatch member

variable {listing : Listing} {site : Site} {phase : ListingPhase} {passed : List String}
  {line : LogicalLine}

/-- Lines are marked one by one, given the texts of the lines in front of them all. -/
structure MarksAll (listing : Listing) (site : Site) (limits : Limits) (passed : List String)
    (lines : List LogicalLine) (marks : List (Option Region)) : Prop where
  /-- There is a mark for each line, or none. -/
  length : marks.length = lines.length
  /-- Each line is marked as those in front of it tell. -/
  each : ∀ place line mark, lines[place]? = some line → marks[place]? = some mark →
    Marks listing site limits (passed ++ (lines.take place).map (·.text)) line mark

namespace MarksAll

variable {limits : Limits} {lines : List LogicalLine} {marks : List (Option Region)}
  {mark : Option Region}

/-- A listing marks no line of none. -/
theorem nil : MarksAll listing site limits passed [] [] where
  -- There is no place to look at.
  length := rfl
  each _ _ _ found := nomatch found

/-- The first line counts for the ones behind it. -/
theorem cons (first : Marks listing site limits passed line mark)
    (later : MarksAll listing site limits (passed ++ [line.text]) lines marks) :
    MarksAll listing site limits passed (line :: lines) (mark :: marks) where
  -- The first line follows those passed, and a later one also follows the first.
  length := congrArg (· + 1) later.length
  each := by
    intro place other found here there
    cases place with
    | zero =>
      cases here
      cases there
      rw [List.take_zero, List.map_nil, List.append_nil]
      exact first
    | succ place =>
      rw [List.take_succ_cons, List.map_cons, List.append_cons]
      exact later.each place other found here there

/-- Nothing is marked behind an empty line that ends the table. -/
theorem of_ended (stops : listing.format.stopOnBlank = true) (ended : "" ∈ passed) :
    MarksAll listing site limits passed lines (lines.map fun _ => none) where
  -- The empty line that ended the table is among the earlier ones of every line.
  length := List.length_map _
  each := by
    intro place other found _ there
    rw [List.getElem?_map] at there
    obtain ⟨_, _, rfl⟩ := Option.map_eq_some_iff.mp there
    apply Marks.nothing
    intro name lists
    exact lists.going stops "" (List.mem_append_left _ (List.mem_append_left _ ended)) rfl

end MarksAll

/-- A line is taken without failing, and is marked by at most one region. -/
theorem takeLine_marks
    (safe : ∀ name, Undelimited name → (listing.describe site name).validate = .ok ())
    (reached : listing.format.Reached passed phase) {scene : Scene}
    (held : scene.line = some line) {nextId : Nat} {handled : Handled Flow} {table : RegionTable}
    (taken : (listing.matcher site phase).takeLine scene { nextId } line = (handled, table)) :
    handled.matcher = listing.matcher site (listing.format.phaseAfter phase line.text) ∧
      handled.answer = .ok (if listing.format.read phase line.text = .endOfTable then .stop
        else .proceed) ∧
      ∃ mark : Option Region, table.regions = mark.toList ∧
        Marks listing site scene.limits passed line mark := by
  -- How the line is read decides what the hook does, and only a row asks for a region.
  unfold Matcher.takeLine Matcher.handle at taken
  dsimp only [matcher, machine] at taken
  unfold ListingFormat.phaseAfter
  have unlisted (other : ∀ name, listing.format.read phase line.text ≠ .row name) :
      Marks listing site scene.limits passed line none :=
    .nothing fun name lists => other name (reached.lists_iff.mp lists)
  cases reading : listing.format.read phase line.text with
  | endOfTable =>
    rw [reading] at taken
    cases taken
    exact ⟨rfl, rfl, none, rfl, unlisted fun name => by simp [reading]⟩
  | header =>
    rw [reading] at taken
    cases taken
    exact ⟨rfl, rfl, none, rfl, unlisted fun name => by simp [reading]⟩
  | other =>
    rw [reading] at taken
    cases taken
    exact ⟨rfl, rfl, none, rfl, unlisted fun name => by simp [reading]⟩
  | row name =>
    -- The name of the row is clean, so the region is not refused.
    have lists := reached.lists_iff.mpr reading
    rw [reading] at taken
    dsimp only at taken
    rw [Program.run_create held (Scene.spanSound_whole line) (safe name lists.clean)] at taken
    cases taken
    refine ⟨rfl, rfl, some _, rfl, ⟨fun _ => ⟨name, lists⟩, fun _ => rfl⟩, ?_, ?_, ?_⟩
    · rintro _ ⟨⟩
      rfl
    · rintro _ ⟨⟩
      rfl
    · rintro _ ⟨⟩ other also
      have same := reading.symm.trans (reached.lists_iff.mp also)
      cases same
      rfl

variable {id : InvocationId} {limits : Limits} {received : List String} {last : Matcher}
  {turns : List Turn} {attendance : Attendance}

/-- Finishing marks nothing. -/
theorem finish_silent (scene : Scene) (nextId totalRows : Nat) :
    ((listing.matcher site phase).finish scene { nextId } totalRows).2.regions = [] :=
  -- The last hook of a listing asks for nothing.
  rfl

/-- Each line that is given is marked as it should be, and so is each that is no longer given. -/
theorem made_lines
    (safe : ∀ name, Undelimited name → (listing.describe site name).validate = .ok ())
    (reached : listing.format.Reached passed phase) {lines : List LogicalLine}
    (enacts : Matcher.Enacts id limits received listing.name (listing.matcher site phase) turns
      last)
    (follows : turns.map (·.call) = attendance.takingCalls lines (turns.map (·.verdict))) :
    ∃ marks : List (Option Region), turns.flatMap Turn.made = marks.flatMap Option.toList ∧
      MarksAll listing site limits passed lines marks := by
  -- Induction on the lines, with what was passed before carried along as the phase it leads to.
  induction lines generalizing passed phase turns with
  | nil => exact ⟨[], enacts.made_finish finish_silent follows, .nil⟩
  | cons line rest ih =>
    obtain ⟨rows, nextId, handled, table, turns, taken, later, split, behind⟩ :=
      enacts.behind_line follows
    obtain ⟨taker, answer, mark, made, marked⟩ := takeLine_marks safe reached rfl taken
    rw [taker] at later
    rw [answer] at behind
    by_cases ended : listing.format.read phase line.text = .endOfTable
    · -- No further line is given, and none lists an object behind an empty line.
      rw [if_pos ended] at behind
      obtain ⟨stops, blank⟩ := ListingFormat.read_eq_endOfTable_iff.mp ended
      have nothing : turns.flatMap Turn.made = [] := by
        by_cases always : attendance.finishPolicy = .always
        · exact later.made_finish finish_silent (behind.trans (if_pos always))
        · rw [List.map_eq_nil_iff.mp (behind.trans (if_neg always))]
          rfl
      refine ⟨mark :: rest.map fun _ => none, ?_, .cons marked (.of_ended stops ?_)⟩
      · simp [split, nothing, made]
      · simp [blank]
    · rw [if_neg ended] at behind
      obtain ⟨marks, madeLater, all⟩ := ih (reached.next ended) later behind
      refine ⟨mark :: marks, ?_, .cons marked all⟩
      rw [split, List.flatMap_cons, madeLater, made]

/-- A matcher that is started with a chance of success reads the listing from its first line on. -/
theorem made_invocation
    (safe : ∀ name, Undelimited name → (listing.describe site name).validate = .ok ())
    (enacts : Matcher.Enacts id limits received listing.name (listing.matcher site .awaitingHeader)
      turns last)
    (follows : turns.map (·.call) = attendance.calls (turns.map (·.verdict)))
    {begun : Invocation} (starts : attendance.startedWith? = some begun) :
    (begun.mayHaveSucceeded = false → turns.flatMap Turn.made = []) ∧
    (begun.mayHaveSucceeded = true →
      ∃ marks : List (Option Region), turns.flatMap Turn.made = marks.flatMap Option.toList ∧
        MarksAll listing site limits [] attendance.life.lines marks) := by
  -- A listing wants lines exactly when the command may have succeeded.
  obtain ⟨rest, later, made, behind⟩ := enacts.behind_start follows starts
  have answer : ((listing.matcher site .awaitingHeader).start begun).answer =
      .ok begun.mayHaveSucceeded := rfl
  rw [answer] at behind
  rw [made]
  constructor
  · intro unwanted
    rw [unwanted] at behind
    rw [List.map_eq_nil_iff.mp behind]
    rfl
  · intro wanted
    rw [wanted] at behind
    have reached : listing.format.Reached [] .awaitingHeader := by
      -- Before the first line no header came and nothing ended the table.
      constructor
      · exact fun _ _ member => nomatch member
      · simp
    exact made_lines safe reached later behind

end Listing

open Listing in
/--
The regions of a listing matcher are the rows behind a header of its table, in order.

A matcher that waited for a command that failed marks nothing. The matcher may be registered under
any settings and beside any others, and the regions may be evicted at any time.
-/
theorem listing_marked {registry : Registry} (registered : registry.Registered)
    {listing : Listing} {settings : MatcherSettings}
    (member : listing.factory settings ∈ registry.factories) (deferBuffered : Bool)
    (limits : Limits) (before : List Operation) {invocation : Invocation}
    (safe : ∀ name, Undelimited name →
      (listing.describe (Registry.siteOf invocation) name).validate = .ok ())
    (hopeful : invocation.exitCode = none ∨ invocation.exitCode = some 0)
    (after : List Operation) {exitCode : Int} {totalRows : Nat} :
    let start := Tracker.ofRegistry registry deferBuffered limits
    let id := (start.course before).tracker.upcoming
    let operations := before ++ .begin invocation :: after
    let life := Life.after id invocation after
    let waits := !(listing.factory settings).fast && deferBuffered
    let regions := ((start.course operations).tracker.table.forInvocation id).filter
      (·.matcher == listing.name)
    listing.name ∈ (registry.resolve id invocation).1.map (·.name) →
    life.ending = .finished exitCode totalRows →
      (waits = true → exitCode ≠ 0 → regions = []) ∧
      ((waits = true → exitCode = 0) →
        ∃ marks : List (Option Region),
          regions =
            (marks.flatMap Option.toList).filter (fun region => !start.evicted operations region) ∧
          marks.length = life.lines.length ∧
          ∀ place line mark, life.lines[place]? = some line → marks[place]? = some mark →
            Marks listing (Registry.siteOf invocation) limits
              ((life.lines.take place).map (·.text)) line mark) := by
  -- The part of the listing in the course is singled out, and its hooks see the lines of the life.
  intro start id operations life waits regions attaches ends
  obtain ⟨notes, built, turns, last, _, created, enacts, follows, own⟩ :=
    Tracker.exists_part registered member deferBuffered limits before invocation after attaches
  cases created
  have kept : life.invocation = invocation := Life.after_invocation id invocation after
  have starts := Attendance.startedWith?_finished
    { id, waits, finishPolicy := (listing.factory settings).finishPolicy, life } ends
  obtain ⟨failed, succeeded⟩ := made_invocation safe enacts follows starts
  dsimp only at failed succeeded
  rw [kept] at failed succeeded
  constructor
  · intro waiting bad
    have nothing := failed (by simp [waiting, Invocation.mayHaveSucceeded, bad])
    rw [nothing] at own
    exact own
  · intro good
    -- A listing that waits is started with the exit code, and another without one or with zero.
    have begun : (if waits then { invocation with exitCode := some exitCode }
        else invocation).mayHaveSucceeded = true := by
      cases waiting : waits with
      | true => simp [Invocation.mayHaveSucceeded, good waiting]
      | false => rcases hopeful with exit | exit <;> simp [Invocation.mayHaveSucceeded, exit]
    obtain ⟨marks, made, all⟩ := succeeded begun
    refine ⟨marks, ?_, all.length, all.each⟩
    rw [← made]
    exact own

open Listing in
/--
Machines are marked behind the header, and nothing is behind the empty line that ends the table.

An indented row and a name with a delimiter are passed over on the way.
-/
theorem listing_marked_until_blank :
    let listing := Machines.machines
    let registry : Registry := { factories := [listing.factory {}] }
    let invocation : Invocation := { command := "machinectl list", server := "srv-1" }
    let after : List Operation :=
      [.pushRow ⟨1⟩ "MACHINE CLASS" false, .pushRow ⟨1⟩ "web container" false,
        .pushRow ⟨1⟩ " 10.0.0.7" false, .pushRow ⟨1⟩ "a|b vm" false, .pushRow ⟨1⟩ "db vm" false,
        .pushRow ⟨1⟩ "" false, .pushRow ⟨1⟩ "3 machines listed." false, .finish ⟨1⟩ 0 7]
    registry.Registered ∧ listing.factory {} ∈ registry.factories ∧
      (∀ name, Undelimited name →
        (listing.describe (Registry.siteOf invocation) name).validate = .ok ()) ∧
      (invocation.exitCode = none ∨ invocation.exitCode = some 0) ∧
      let start := Tracker.ofRegistry registry true {}
      let id := (start.course []).tracker.upcoming
      let operations := [] ++ .begin invocation :: after
      let life := Life.after id invocation after
      let waits := !(listing.factory {}).fast && true
      let regions := ((start.course operations).tracker.table.forInvocation id).filter
        (·.matcher == listing.name)
      listing.name ∈ (registry.resolve id invocation).1.map (·.name) ∧
      life.ending = .finished 0 7 ∧
        regions.map (fun region => (region.start, region.stop, region.metadata.primaryAction)) =
          [(⟨1, 0⟩, ⟨1, 13⟩, some
              { name := "NewConnection", args := [.value "9", .value "web", .value "srv-1"] }),
            (⟨4, 0⟩, ⟨4, 5⟩, some
              { name := "NewConnection", args := [.value "9", .value "db", .value "srv-1"] })] ∧
        (waits = true → (0 : Int) ≠ 0 → regions = []) ∧
        ((waits = true → (0 : Int) = 0) →
          ∃ marks : List (Option Region),
            regions =
              (marks.flatMap Option.toList).filter
                (fun region => !start.evicted operations region) ∧
            marks.length = life.lines.length ∧
            ∀ place line mark, life.lines[place]? = some line → marks[place]? = some mark →
              Marks listing (Registry.siteOf invocation) {}
                ((life.lines.take place).map (·.text)) line mark) := by
  -- The conditions hold at the seven rows of this list of machines.
  intro listing registry invocation after
  have registered : registry.Registered := .register .empty (listing.factory {}) rfl
  have member : listing.factory {} ∈ registry.factories := List.mem_singleton_self _
  have safe : ∀ name, Undelimited name →
      (listing.describe (Registry.siteOf invocation) name).validate = .ok () :=
    fun name clean => Machines.machines_safe _ name (by decide)
      (hasReserved_eq_false_iff_undelimited.mpr clean)
  have hopeful : invocation.exitCode = none ∨ invocation.exitCode = some 0 := .inl rfl
  have attaches : listing.name ∈ (registry.resolve ⟨1⟩ invocation).1.map (·.name) := by decide
  have ends : (Life.after ⟨1⟩ invocation after).ending = .finished 0 7 := by decide
  -- The regions themselves are what running the tracker over the seven rows leaves.
  exact ⟨registered, member, safe, hopeful, attaches, ends, by decide +kernel,
    listing_marked registered member true {} [] safe hopeful after attaches ends⟩

end Annotator

import Annotator.Builtin
import Annotator.Proofs.Region.Behind
import Annotator.Proofs.Region.Numbers
import Annotator.Proofs.Tracker.Concurrency
import Annotator.Proofs.Tracker.Regime

/-! Evictions take regions out of the table, and nothing else is any different for it. -/

namespace Annotator

/-- What a step leaves when its table comes behind older regions. -/
def RegionTable.stepBehind {α β : Type _} (older : List Region) (result : α × RegionTable × β) :
    α × RegionTable × β :=
  -- Only the table knows of the older regions.
  (result.1, result.2.1.behind older, result.2.2)

open RegionTable (stepBehind)

namespace Slot

variable (older : List Region) {stage : Stage} {slot : Slot} {table : RegionTable}

/-- A slot takes a line behind older regions as it does without them. -/
theorem deliver_behind (line : LogicalLine) :
    slot.deliver stage (table.behind older) line =
      stepBehind older (slot.deliver stage table line) := by
  -- Only the hook reaches the table, and it does not look at the older regions.
  by_cases active : slot.status = .active
  · rw [deliver_of_active active, deliver_of_active active, Matcher.takeLine, Matcher.takeLine,
      Matcher.handle_behind]
    rfl
  · rw [deliver_of_not_active active, deliver_of_not_active active]
    rfl

/-- A slot takes lines behind older regions as it does without them. -/
theorem deliverLines_behind (lines : List LogicalLine) :
    slot.deliverLines stage (table.behind older) lines =
      stepBehind older (slot.deliverLines stage table lines) := by
  -- Induction on the lines.
  induction lines generalizing slot table with
  | nil => rfl
  | cons line rest ih => simp only [deliverLines, deliver_behind, stepBehind, ih]

/-- A slot catches up behind older regions as it does without them. -/
theorem catchUp_behind (invocation : Invocation) (lines : List LogicalLine) :
    slot.catchUp stage invocation (table.behind older) lines =
      stepBehind older (slot.catchUp stage invocation table lines) := by
  -- Starting does not reach the table, so the lines are all that matters.
  by_cases waiting : slot.status = .waiting
  · rw [catchUp_of_waiting waiting, catchUp_of_waiting waiting]
    simp only [deliverLines_behind, stepBehind]
  · rw [catchUp_of_not_waiting waiting, catchUp_of_not_waiting waiting]
    rfl

/-- A slot finishes behind older regions as it does without them. -/
theorem finish_behind (totalRows : Nat) :
    slot.finish stage (table.behind older) totalRows =
      stepBehind older (slot.finish stage table totalRows) := by
  -- Only the hook reaches the table, and it does not look at the older regions.
  cases wanted : slot.wantsFinish with
  | true =>
    rw [finish_of_wanting wanted, finish_of_wanting wanted, Matcher.finish, Matcher.finish,
      Matcher.handle_behind]
    rfl
  | false =>
    rw [finish_of_not_wanting wanted, finish_of_not_wanting wanted]
    rfl

/-- A slot completes behind older regions as it does without them. -/
theorem complete_behind (invocation : Invocation) (lines : List LogicalLine) (totalRows : Nat) :
    slot.complete stage invocation lines totalRows (table.behind older) =
      stepBehind older (slot.complete stage invocation lines totalRows table) := by
  -- Both parts of a completion do so.
  simp only [complete_eq, catchUp_behind, finish_behind, stepBehind]

/-- A pass over slots does the same behind older regions if each of its steps does. -/
theorem each_behind {step : Slot → RegionTable → Slot × RegionTable × Journal}
    (steps : ∀ slot table, step slot (table.behind older) = stepBehind older (step slot table))
    (slots : List Slot) (table : RegionTable) :
    each step slots (table.behind older) = stepBehind older (each step slots table) := by
  -- Induction on the slots, each of which leaves the older regions in front.
  induction slots generalizing table with
  | nil => rfl
  | cons slot rest ih => simp only [each, steps, stepBehind, ih]

end Slot

namespace Running

variable (older : List Region) {id : InvocationId} {limits : Limits} {running : Running}
  {table : RegionTable}

/-- An invocation takes a line behind older regions as it does without them. -/
theorem deliverIfAny_behind (given : Option LogicalLine) :
    running.deliverIfAny id limits (table.behind older) given =
      stepBehind older (running.deliverIfAny id limits table given) := by
  -- Without a line nothing happens, and with one the slots take it one by one.
  cases given with
  | none => rfl
  | some line =>
    rw [deliverIfAny, deliverIfAny, deliver_eq, deliver_eq]
    dsimp only
    rw [Slot.each_behind older fun slot table => Slot.deliver_behind older line]
    rfl

/-- Pushing a row does the same whatever older regions there are. -/
theorem push_behind (row : String) (wraps : Bool) :
    running.push id limits (table.behind older) row wraps =
      stepBehind older (running.push id limits table row wraps) := by
  -- The buffer does not look at the table.
  rw [push_eq, push_eq, deliverIfAny_behind]

/-- Completing an invocation does the same whatever older regions there are. -/
theorem complete_behind (exitCode : Int) (totalRows : Nat) :
    running.complete id limits (table.behind older) exitCode totalRows =
      ((running.complete id limits table exitCode totalRows).1.behind older,
        (running.complete id limits table exitCode totalRows).2) := by
  -- The line that is pending comes first, and then the slots complete one by one.
  rw [complete_eq, complete_eq, deliverIfAny_behind]
  dsimp only [stepBehind]
  rw [Slot.each_behind older fun slot table => Slot.complete_behind older _ _ totalRows]
  rfl

end Running

/-- A region is removed by the operations that evict it or its invocation. -/
def Operation.removes (region : Region) : Operation → Bool
  -- All other operations remove nothing.
  | .evict id => region.id == id
  | .evictInvocation id => region.invocation == id
  | .begin _ | .pushRow .. | .finish .. | .abandon _ => false

namespace Tracker

variable {tracker : Tracker} {operation : Operation}

/-- A tracker whose table comes behind older regions. -/
def behind (older : List Region) (tracker : Tracker) : Tracker :=
  -- What runs stays as it is.
  { tracker with table := tracker.table.behind older }

/-- A tracker in whose table there is no region. -/
def bare (tracker : Tracker) : Tracker :=
  -- The next number stays.
  { tracker with table := tracker.table.bare }

/-- The regions that an operation creates. -/
def creates (tracker : Tracker) (operation : Operation) : List Region :=
  -- They come behind the regions that are there.
  (tracker.bare.perform operation).2.1.table.regions

/-- A tracker is its bare self with its own regions. -/
theorem behind_bare (tracker : Tracker) : tracker.bare.behind tracker.table.regions = tracker := by
  -- Only the table is concerned.
  rw [behind, bare, RegionTable.behind_bare]

/-- Operations that evict nothing do the same whatever older regions there are. -/
theorem perform_behind (stays : operation.evicts = false) (older : List Region)
    (tracker : Tracker) :
    (tracker.behind older).perform operation =
      ((tracker.perform operation).1, (tracker.perform operation).2.1.behind older,
        (tracker.perform operation).2.2) := by
  -- One case for each operation: the older regions are neither read nor moved.
  have same (id : InvocationId) : (tracker.behind older).running? id = tracker.running? id := rfl
  cases operation with
  | begin invocation => rw [perform_begin, perform_begin]; rfl
  | pushRow id row wraps =>
    cases present : tracker.running? id with
    | none => rw [perform_gone rfl present, perform_gone rfl ((same id).trans present)]; rfl
    | some running =>
      rw [perform_pushRow present, perform_pushRow ((same id).trans present)]
      dsimp only [behind]
      rw [Running.push_behind]
      rfl
  | finish id exitCode totalRows =>
    cases present : tracker.running? id with
    | none => rw [perform_gone rfl present, perform_gone rfl ((same id).trans present)]; rfl
    | some running =>
      rw [perform_finish present, perform_finish ((same id).trans present)]
      dsimp only [behind]
      rw [Running.complete_behind]
      rfl
  | abandon id =>
    cases present : tracker.running? id with
    | none => rw [perform_gone rfl present, perform_gone rfl ((same id).trans present)]; rfl
    | some running =>
      rw [perform_abandon present, perform_abandon ((same id).trans present)]
      rfl
  | evict id => cases stays
  | evictInvocation id => cases stays

/-- An operation that evicts nothing is known from what it does without any regions. -/
theorem perform_creates (stays : operation.evicts = false) (tracker : Tracker) :
    tracker.perform operation =
      ((tracker.bare.perform operation).1,
        (tracker.bare.perform operation).2.1.behind tracker.table.regions,
        (tracker.bare.perform operation).2.2) := by
  -- The regions of the tracker are the older ones of its bare self.
  have behind := perform_behind stays tracker.table.regions tracker.bare
  rwa [behind_bare] at behind

/-- An eviction removes regions, calls no hook and leaves everything else as it is. -/
theorem perform_evicts (evicts : operation.evicts = true) (tracker : Tracker) :
    (tracker.perform operation).2 =
      ({ tracker with table := { tracker.table with
          regions := tracker.table.regions.filter fun region => !operation.removes region } },
        []) := by
  -- Either eviction keeps the regions that it does not remove, and nobody is called.
  cases operation with
  | evict id => rfl
  | evictInvocation id => rfl
  | _ => cases evicts

/-- A region was in the table when one of the operations evicted it. -/
def evicted (tracker : Tracker) : List Operation → Region → Bool
  -- Naming a region that is not there, or not there yet, does not count.
  | [], _ => false
  | operation :: later, region =>
    (operation.removes region && tracker.table.regions.contains region) ||
      (tracker.perform operation).2.1.evicted later region

/-- The last operation evicts what it removes of the regions that are there. -/
theorem evicted_concat (tracker : Tracker) (operations : List Operation) (operation : Operation)
    (region : Region) :
    tracker.evicted (operations ++ [operation]) region =
      (tracker.evicted operations region || (operation.removes region &&
        (tracker.course operations).tracker.table.regions.contains region)) := by
  -- Induction on the operations in front, which lead to the table that the last one meets.
  induction operations generalizing tracker with
  | nil => simp [evicted]
  | cons first later ih => rw [List.cons_append, evicted, evicted, ih, course_cons, Bool.or_assoc]

end Tracker

namespace RegionTable

/-- Evicting takes out the one region of a number and hands it back, or changes nothing. -/
theorem evict_spec {table : RegionTable}
    (ordered : table.regions.Pairwise (·.id.number < ·.id.number)) (id : RegionId) :
    (∃ region front back, table.regions = front ++ region :: back ∧ region.id = id ∧
        table.evict id = (some region, { table with regions := front ++ back })) ∨
      (∀ region ∈ table.regions, region.id ≠ id) ∧ table.evict id = (none, table) := by
  -- There is a region of the number or there is none.
  unfold evict
  cases found : table.get? id with
  | none =>
    right
    have absent (region : Region) (member : region ∈ table.regions) : region.id ≠ id := by
      simpa using List.find?_eq_none.mp found region member
    have all : table.regions.filter (fun region => region.id != id) = table.regions :=
      List.filter_eq_self.mpr fun region member => by simpa using absent region member
    exact ⟨absent, by rw [all]⟩
  | some region =>
    left
    obtain ⟨same, front, back, split, _⟩ := List.find?_eq_some_iff_append.mp found
    have named : region.id = id := by simpa using same
    refine ⟨region, front, back, split, named, ?_⟩
    rw [split] at ordered ⊢
    obtain ⟨_, behind, apart⟩ := List.pairwise_append.mp ordered
    -- The regions on both sides have smaller and larger numbers.
    have kept (others : List Region) (differ : ∀ other ∈ others, other.id ≠ id) :
        others.filter (fun region => region.id != id) = others :=
      List.filter_eq_self.mpr fun other member => by simpa using differ other member
    have before : ∀ other ∈ front, other.id ≠ id := by
      intro other member equal
      have smaller := apart other member region List.mem_cons_self
      rw [equal, named] at smaller
      exact Nat.lt_irrefl _ smaller
    have after : ∀ other ∈ back, other.id ≠ id := by
      intro other member equal
      have larger := (List.pairwise_cons.mp behind).1 other member
      rw [equal, named] at larger
      exact Nat.lt_irrefl _ larger
    rw [List.filter_append, List.filter_cons_of_neg (by simp [named]), kept front before,
      kept back after]

/-- Evicting an invocation counts the regions it takes out and leaves those of all others. -/
theorem evictInvocation_spec (table : RegionTable) (id : InvocationId) :
    (table.evictInvocation id).1 + (table.evictInvocation id).2.size = table.size ∧
      (table.evictInvocation id).2.forInvocation id = [] ∧
      ∀ other, other ≠ id →
        (table.evictInvocation id).2.forInvocation other = table.forInvocation other := by
  -- A region is either removed and counted, or kept.
  refine ⟨?_, ?_, fun other differs => ?_⟩
  · show (table.regions.filter (·.invocation == id)).length +
      (table.regions.filter fun region => !(region.invocation == id)).length = table.regions.length
    exact (List.length_eq_length_filter_add fun region : Region => region.invocation == id).symm
  · simp [evictInvocation, forInvocation]
  · simp only [evictInvocation, forInvocation, List.filter_filter]
    refine List.filter_congr fun region _ => ?_
    by_cases own : region.invocation = other
    · simp [own, differs]
    · simp [own]

end RegionTable

namespace Workplace

/-- Some of the regions of a workplace are in order when no event is under way any more. -/
theorem Ordered.left {place : Workplace} (ordered : place.Ordered) {kept : List Region}
    (sublist : kept.Sublist place.regions) :
    Ordered { desk := { table := { place.desk.table with regions := kept } } } := by
  -- Leaving an event with fewer regions keeps the invariant of the numbers.
  have advances : place.Advances (.enter default) .nothing _ := ordered.leave sublist none rfl
  exact advances.ordered

/-- A hook keeps the regions of a table in the order of their numbers. -/
theorem Ordered.handle {table : RegionTable} (ordered : Ordered { desk := { table } })
    (matcher : Matcher) (scene : Scene) {α : Type} (program : Program (Reply matcher.State α)) :
    Ordered { desk := { table := (matcher.handle scene table program).2 } } := by
  -- The hook does its deeds at a desk of its own, and then the desk is left.
  obtain ⟨deeds, _, same⟩ := after_run scene program { table }
  have reached := (ordered.after (.enter scene :: deeds)).1
  rw [after_cons] at reached
  have entered : (perform { desk := { table } } (.enter scene)).2 =
      { scene := some scene, desk := { table } } := rfl
  rw [entered, same] at reached
  exact reached.left (List.Sublist.refl _)

end Workplace

/-- Regions are stored in the order of their numbers, whichever matchers there are. -/
def Regime.ordered : Regime where
  -- Nothing has to be known of the matchers.
  holds _ _ := True
  stores table := Workplace.Ordered { desk := { table } }
  fresh := Workplace.ordered_start
  start _ _ := trivial
  line _ _ _ ordered := ⟨trivial, ordered.handle _ _ _⟩
  finish _ _ _ ordered := ⟨trivial, ordered.handle _ _ _⟩
  remove _ ordered := ordered.left List.filter_sublist

namespace Tracker

/-- Whatever is asked of a tracker, its regions are listed in the order of their numbers. -/
theorem course_ordered (registry : Registry) (deferBuffered : Bool) (limits : Limits)
    (operations : List Operation) :
    (((ofRegistry registry deferBuffered limits).course
      operations).tracker.table.regions).Pairwise (·.id.number < ·.id.number) := by
  -- The order of the numbers is one of the regimes that govern all courses.
  have begun := Regime.ordered.governs_ofRegistry registry deferBuffered limits
  have bounded := bounded_ofRegistry registry deferBuffered limits
  have admitted : ∀ factory ∈ registry.factories, Regime.ordered.Admits factory :=
    fun _ _ _ _ _ _ => trivial
  exact (begun.course bounded admitted operations).stores.ascending

/-- A region was in the table at some time in the course of operations. -/
def EverStored (start : Tracker) (operations : List Operation) (region : Region) : Prop :=
  -- It need not be there at the end.
  ∃ before, before <+: operations ∧ region ∈ (start.course before).tracker.table.regions

variable {start : Tracker} {operations : List Operation} {region : Region}

/-- The last operation adds what is stored behind it. -/
theorem everStored_concat :
    start.EverStored (operations ++ [operation]) region ↔
      start.EverStored operations region ∨
        region ∈ (start.course (operations ++ [operation])).tracker.table.regions := by
  -- A course in front of the last operation is in front of all, or is the whole.
  simp only [EverStored, List.prefix_concat_iff]
  constructor
  · rintro ⟨before, rfl | early, present⟩
    · exact .inr present
    · exact .inl ⟨before, early, present⟩
  · rintro (⟨before, early, present⟩ | present)
    · exact ⟨before, .inr early, present⟩
    · exact ⟨_, .inl rfl, present⟩

/-- An evicted region was in the table. -/
theorem everStored_of_evicted (evicted : start.evicted operations region = true) :
    start.EverStored operations region := by
  -- Induction on the operations from their end, as only what is stored is evicted.
  induction operations using List.reverseRecOn with
  | nil => cases evicted
  | append_singleton operations operation ih =>
    rw [evicted_concat, Bool.or_eq_true, Bool.and_eq_true] at evicted
    rcases evicted with early | ⟨_, present⟩
    · exact everStored_concat.mpr (.inl (ih early))
    · exact ⟨operations, List.prefix_append _ _, by simpa using present⟩

/-- The operations that are left when no region is evicted. -/
def unevicted (operations : List Operation) : List Operation :=
  -- Their order is kept.
  operations.filter fun operation => !operation.evicts

/-- A course differs from the one without evictions in nothing but the regions it evicted. -/
structure Thins (start : Tracker) (operations : List Operation) : Prop where
  /-- The trackers differ in nothing but their regions. -/
  bare : (start.course operations).tracker.bare =
    (start.course (unevicted operations)).tracker.bare
  /-- The same happens. -/
  journal : (start.course operations).journal = (start.course (unevicted operations)).journal
  /-- All operations but the evictions are answered alike. -/
  responses : (operations.zip (start.course operations).responses).filter
      (fun told => !told.1.evicts) =
    (unevicted operations).zip (start.course (unevicted operations)).responses
  /-- Exactly the regions that were evicted are missing. -/
  regions : (start.course operations).tracker.table.regions =
    (start.course (unevicted operations)).tracker.table.regions.filter
      fun region => !start.evicted operations region
  /-- The regions that were ever there are those of the course without evictions. -/
  stored : ∀ region, region ∈ (start.course (unevicted operations)).tracker.table.regions ↔
    start.EverStored operations region

/-- An eviction only takes regions away, and is no part of the course without evictions. -/
theorem Thins.evict (thins : start.Thins operations) (evicts : operation.evicts = true) :
    start.Thins (operations ++ [operation]) := by
  -- The course without evictions does not go on, and the other one loses what is evicted.
  have kept : unevicted (operations ++ [operation]) = unevicted operations := by
    simp [unevicted, evicts]
  have done := perform_evicts evicts (start.course operations).tracker
  have left : (start.course (operations ++ [operation])).tracker =
      ((start.course operations).tracker.perform operation).2.1 := by
    rw [course_concat, Course.follow_tracker]
  have regions : (start.course (operations ++ [operation])).tracker.table.regions =
      (start.course operations).tracker.table.regions.filter
        fun region => !operation.removes region := by
    rw [left, done]
  refine ⟨?_, ?_, ?_, ?_, fun region => ?_⟩
  · rw [kept, left, done, ← thins.bare]
    rfl
  · rw [kept, course_concat, Course.follow_journal, done, List.append_nil, thins.journal]
  · rw [kept, zip_responses_concat, List.filter_append, thins.responses]
    simp [evicts]
  · rw [kept, regions, thins.regions, List.filter_filter]
    refine List.filter_congr fun region member => ?_
    rw [evicted_concat, thins.regions]
    -- A region that was evicted before is not there any more.
    cases gone : start.evicted operations region <;> cases operation.removes region <;>
      simp [member, gone]
  · rw [kept, thins.stored, everStored_concat, regions]
    refine (or_iff_left_of_imp fun present => ?_).symm
    exact ⟨operations, List.prefix_refl _, (List.mem_filter.mp present).1⟩

/-- Any other operation does the same in both courses, and creates the same regions. -/
theorem Thins.perform (thins : start.Thins operations) (stays : operation.evicts = false)
    (ordered : (start.course (unevicted (operations ++
      [operation]))).tracker.table.regions.Pairwise (·.id.number < ·.id.number)) :
    start.Thins (operations ++ [operation]) := by
  -- Both courses create the same regions, since what is created does not depend on those there are.
  have kept : unevicted (operations ++ [operation]) = unevicted operations ++ [operation] := by
    simp [unevicted, stays]
  rw [kept] at ordered
  have done := perform_creates stays (start.course operations).tracker
  have doneFull := perform_creates stays (start.course (unevicted operations)).tracker
  rw [thins.bare] at done
  let created := (start.course (unevicted operations)).tracker.creates operation
  have regions : (start.course (operations ++ [operation])).tracker.table.regions =
      (start.course operations).tracker.table.regions ++ created := by
    rw [course_concat, Course.follow_tracker, done]
    rfl
  have regionsFull : (start.course (unevicted operations ++ [operation])).tracker.table.regions =
      (start.course (unevicted operations)).tracker.table.regions ++ created := by
    rw [course_concat, Course.follow_tracker, doneFull]
    rfl
  have unremoved (region : Region) :
      start.evicted (operations ++ [operation]) region = start.evicted operations region := by
    have nothing : operation.removes region = false := by
      cases operation <;> first | rfl | cases stays
    rw [evicted_concat, nothing, Bool.false_and, Bool.or_false]
  -- What is created is new to the course without evictions, so it was not evicted before.
  have fresh : ∀ region ∈ created, start.evicted operations region = false := by
    intro region member
    rw [regionsFull] at ordered
    rw [Bool.eq_false_iff]
    intro evicted
    have old := (thins.stored region).mpr (everStored_of_evicted evicted)
    exact Nat.lt_irrefl _ ((List.pairwise_append.mp ordered).2.2 region old region member)
  refine ⟨?_, ?_, ?_, ?_, fun region => ?_⟩
  · rw [kept, course_concat, course_concat, Course.follow_tracker, Course.follow_tracker, done,
      doneFull]
    rfl
  · rw [kept, course_concat, course_concat, Course.follow_journal, Course.follow_journal, done,
      doneFull, thins.journal]
  · rw [kept, zip_responses_concat, zip_responses_concat, List.filter_append, thins.responses, done,
      doneFull]
    simp [stays]
  · rw [kept, regions, regionsFull, List.filter_append, thins.regions]
    simp only [unremoved]
    have all : created.filter (fun region => !start.evicted operations region) = created :=
      List.filter_eq_self.mpr fun region member => by simp [fresh region member]
    rw [all]
  · rw [kept, everStored_concat, regionsFull, regions, List.mem_append, List.mem_append,
      thins.stored]
    have present : region ∈ (start.course operations).tracker.table.regions →
        start.EverStored operations region := fun there => ⟨operations, List.prefix_refl _, there⟩
    tauto

/-- Every course of a fresh tracker differs from the one without evictions in nothing else. -/
theorem course_thins (registry : Registry) (deferBuffered : Bool) (limits : Limits)
    (operations : List Operation) :
    (ofRegistry registry deferBuffered limits).Thins operations := by
  -- Induction on the operations from their end, with evictions and the others apart.
  induction operations using List.reverseRecOn with
  | nil =>
    refine ⟨rfl, rfl, rfl, rfl, fun region => ⟨fun there => ⟨[], List.prefix_refl _, there⟩, ?_⟩⟩
    rintro ⟨before, early, there⟩
    rwa [List.prefix_nil.mp early] at there
  | append_singleton operations operation ih =>
    cases evicts : operation.evicts with
    | true => exact ih.evict evicts
    | false => exact ih.perform evicts (course_ordered registry deferBuffered limits _)

end Tracker

open Tracker in
/--
Evictions are seen in the table and nowhere else: whatever is evicted at whatever time, all hooks
are called and answer as if nothing were, all other operations are answered alike, and every region
is created under the same number with the same content.
-/
theorem evictions_invisible (registry : Registry) (deferBuffered : Bool) (limits : Limits)
    (operations : List Operation) :
    let start := Tracker.ofRegistry registry deferBuffered limits
    let thinned := start.course operations
    let full := start.course (unevicted operations)
    -- The same calls are made, with the same verdicts, notes and notices.
    thinned.journal = full.journal ∧
    -- The other operations are answered alike, and the invocations and matchers are as far.
    ((operations.zip thinned.responses).filter fun told => !told.1.evicts) =
      (unevicted operations).zip full.responses ∧
    (∀ id, thinned.tracker.phase? id = full.tracker.phase? id ∧
      thinned.tracker.activeMatchers id = full.tracker.activeMatchers id) ∧
    -- Whichever operation follows, it creates the same regions behind those that are there.
    (∀ operation, operation.evicts = false → ∃ created,
      (thinned.tracker.perform operation).2.1.table.regions =
          thinned.tracker.table.regions ++ created ∧
        (full.tracker.perform operation).2.1.table.regions =
          full.tracker.table.regions ++ created) ∧
    (∀ region, region ∈ full.tracker.table.regions ↔ start.EverStored operations region) ∧
    -- Exactly the regions that were evicted while they were there are missing at the end.
    thinned.tracker.table.nextId = full.tracker.table.nextId ∧
    (thinned.tracker.table.regions =
      full.tracker.table.regions.filter fun region => !start.evicted operations region) ∧
    -- Evicting a number hands back the region that is taken out, or nothing.
    (∀ id, (∃ region front back, thinned.tracker.table.regions = front ++ region :: back ∧
        region.id = id ∧ (thinned.tracker.evict id).1 = some region ∧
        (thinned.tracker.evict id).2.table.regions = front ++ back) ∨
      (∀ region ∈ thinned.tracker.table.regions, region.id ≠ id) ∧
        (thinned.tracker.evict id).1 = none ∧
        (thinned.tracker.evict id).2.table = thinned.tracker.table) ∧
    -- Evicting an invocation tells how many regions it takes out, all of them of the invocation.
    ∀ id, (thinned.tracker.evictInvocation id).1 +
        (thinned.tracker.evictInvocation id).2.table.size = thinned.tracker.table.size ∧
      (thinned.tracker.evictInvocation id).2.table.forInvocation id = [] ∧
      ∀ other, other ≠ id → (thinned.tracker.evictInvocation id).2.table.forInvocation other =
        thinned.tracker.table.forInvocation other := by
  -- The two courses are compared operation by operation, and each part is read off that.
  intro start thinned full
  have thins : start.Thins operations := course_thins registry deferBuffered limits operations
  have ordered := course_ordered registry deferBuffered limits operations
  refine ⟨thins.journal, thins.responses, fun id => ?_, fun operation stays => ?_, thins.stored,
    congrArg (·.table.nextId) thins.bare, thins.regions, fun id => ?_, fun id => ?_⟩
  · -- Neither depends on which regions there are.
    have phase : thinned.tracker.bare.phase? id = full.tracker.bare.phase? id := by
      rw [thins.bare]
    have active : thinned.tracker.bare.activeMatchers id = full.tracker.bare.activeMatchers id := by
      rw [thins.bare]
    exact ⟨phase, active⟩
  · refine ⟨full.tracker.creates operation, ?_, ?_⟩
    · rw [perform_creates stays, thins.bare]
      rfl
    · rw [perform_creates stays]
      rfl
  · rcases RegionTable.evict_spec ordered id with
      ⟨region, front, back, split, named, done⟩ | ⟨absent, done⟩
    · left
      refine ⟨region, front, back, split, named, congrArg Prod.fst done, ?_⟩
      exact congrArg (·.2.regions) done
    · right
      exact ⟨absent, congrArg Prod.fst done, congrArg Prod.snd done⟩
  · exact thinned.tracker.table.evictInvocation_spec id

open Tracker in
/-- A build goes on after its first error was evicted, and the way back still leads to it. -/
theorem evictions_invisible_first_error :
    let start := Tracker.ofSettings (Registry.builtins {}).1 {}
    let operations : List Operation :=
      [.begin { command := "make", workingDir := "/w" },
        .pushRow ⟨1⟩ "a.c:1: error: x" false, .evict ⟨1⟩, .evict ⟨2⟩,
        .pushRow ⟨1⟩ "b.c:2: warning: y" false, .pushRow ⟨1⟩ "done" false, .finish ⟨1⟩ 2 3]
    (start.course operations).tracker.table.regions.map (·.id.number) = [2, 3] ∧
      (start.course (unevicted operations)).tracker.table.regions.map (·.id.number) = [1, 2, 3] ∧
      (start.course operations).journal = (start.course (unevicted operations)).journal := by
  -- The first error is evicted, and what leads back to it is offered all the same.
  intro start operations
  exact ⟨by decide +kernel, by decide +kernel,
    (evictions_invisible (Registry.builtins {}).1 true {} operations).1⟩

end Annotator

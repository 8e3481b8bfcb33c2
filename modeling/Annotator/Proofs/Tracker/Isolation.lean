import Annotator.Proofs.Hook.IgnoresNumbers
import Annotator.Proofs.Tracker.Protocol
import Annotator.Proofs.Tracker.Twin

/-! A matcher is called and works the same whatever other matchers are registered beside it. -/

namespace Annotator

/-- What a factory attaches to an invocation by itself. -/
def Factory.attachAlone (factory : Factory) (id : InvocationId) (invocation : Invocation) :
    Option Attachment × Journal :=
  -- Nothing attaches to a blank command.
  if (Registry.siteOf invocation).command.isEmpty then (none, [])
  else Registry.consult factory id invocation (Registry.siteOf invocation)

namespace Registry

variable {registry : Registry} {factory : Factory}

/-- Among factories of distinct names, each attaches what it attaches by itself. -/
theorem resolve_single (distinct : registry.names.Nodup) (member : factory ∈ registry.factories)
    (id : InvocationId) (invocation : Invocation) :
    (registry.resolve id invocation).1.filter (·.name == factory.name) =
        (factory.attachAlone id invocation).1.toList ∧
      Journal.callsOf (registry.resolve id invocation).2 factory.name id =
        Journal.callsOf (factory.attachAlone id invocation).2 factory.name id := by
  -- The factories are split at the one of the name.
  rw [resolve_eq, Factory.attachAlone]
  split
  · exact ⟨rfl, rfl⟩
  · obtain ⟨front, back, split⟩ := List.append_of_mem member
    rw [names, split, List.map_append, List.map_cons, List.nodup_append,
      List.nodup_cons] at distinct
    obtain ⟨_, ⟨behind, _⟩, before⟩ := distinct
    have ahead : factory.name ∉ front.map (·.name) := fun named =>
      before _ named _ List.mem_cons_self rfl
    -- Factories of other names attach under those names and are called under them.
    have apart (others : List Factory) (absent : factory.name ∉ others.map (·.name)) :
        (consultAll id invocation (siteOf invocation) others).1.filter
            (·.name == factory.name) = [] ∧
          Journal.callsOf (consultAll id invocation (siteOf invocation) others).2
            factory.name id = [] := by
      refine ⟨List.filter_eq_nil_iff.mpr fun attachment present same => absent ?_,
        (consultAll_onlyCalls others).callsOf_eq_nil fun call allowed => absent allowed.1⟩
      rw [← beq_iff_eq.mp same]
      exact (consultAll_names others).subset (List.mem_map.mpr ⟨attachment, present, rfl⟩)
    obtain ⟨noneAhead, quietAhead⟩ := apart front ahead
    obtain ⟨noneBehind, quietBehind⟩ := apart back behind
    have own : (consult factory id invocation (siteOf invocation)).1.toList.filter
        (·.name == factory.name) =
          (consult factory id invocation (siteOf invocation)).1.toList := by
      rw [List.filter_eq_self]
      intro attachment attached
      exact beq_iff_eq.mpr (consult_name (Option.mem_toList.mp attached))
    rw [split, consultAll_append, consultAll]
    dsimp only
    rw [List.filter_append, List.filter_append, noneAhead, noneBehind, own,
      Journal.callsOf_append, Journal.callsOf_append, quietAhead, quietBehind]
    simp

end Registry

/-- What a factory that ignores numbers attaches is the same as itself. -/
theorem Factory.IgnoresNumbers.attaches {factory : Factory} (ignores : factory.IgnoresNumbers)
    {id : InvocationId} {invocation : Invocation} {attachment : Attachment}
    (attached : (factory.attachAlone id invocation).1 = some attachment) :
    Pairing.SameMatcher {} attachment.matcher attachment.matcher := by
  -- The matcher was built by the factory, which ignores numbers.
  unfold attachAlone at attached
  split at attached
  · cases attached
  · obtain ⟨_, notes, matcher, built, rfl⟩ := Registry.consult_eq_some attached
    obtain ⟨states, respects, fresh⟩ := ignores _ notes matcher built
    exact .intro respects fresh

namespace Tracker

variable {deferBuffered : Bool} {id : InvocationId} {invocation : Invocation}

/-- Among attachments of distinct names, the one of a name is seated as if it were alone. -/
theorem attachAll_single {attachments : List Attachment} {name : String} {own : Option Attachment}
    (distinct : (attachments.map (·.name)).Nodup)
    (alone : attachments.filter (·.name == name) = own.toList) (deferBuffered : Bool)
    (id : InvocationId) (invocation : Invocation) :
    Slot.Singles (attachAll deferBuffered id invocation attachments).1 name
        (own.bind fun attachment => (seat deferBuffered id invocation attachment).1) ∧
      Journal.callsOf (attachAll deferBuffered id invocation attachments).2 name id =
        own.elim [] fun attachment =>
          Journal.callsOf (seat deferBuffered id invocation attachment).2 name id := by
  -- Either one attachment bears the name or none does.
  cases own with
  | none =>
    -- No attachment bears the name, so neither does a slot.
    have absent : name ∉ attachments.map (·.name) := by
      intro named
      obtain ⟨attachment, present, same⟩ := List.mem_map.mp named
      exact List.filter_eq_nil_iff.mp alone attachment present (beq_iff_eq.mpr same)
    refine ⟨⟨⟨(attachAll deferBuffered id invocation attachments).1, [], by simp, ?_⟩,
      fun slot none => nomatch none⟩, attachAll_calls attachments name id (.inl absent)⟩
    intro slot present same
    rw [List.append_nil] at present
    exact absent ((attachAll_names attachments).subset (List.mem_map.mpr ⟨slot, present, same⟩))
  | some attachment =>
    have chosen : attachment ∈ attachments.filter (·.name == name) := by simp [alone]
    obtain ⟨member, same⟩ := List.mem_filter.mp chosen
    obtain rfl := beq_iff_eq.mp same
    exact attachAll_singles distinct member

/-- A matcher that is the same as itself is seated in a slot that is. -/
theorem seat_same {attachment : Attachment} {slot : Slot}
    (same : Pairing.SameMatcher {} attachment.matcher attachment.matcher)
    (seated : (seat deferBuffered id invocation attachment).1 = some slot) :
    Pairing.SameSlot {} slot slot := by
  -- The slot is seated as it is, or after a start that agrees with itself.
  rcases seat_eq_some seated with rfl | ⟨-, rfl⟩
  · exact ⟨rfl, rfl, rfl, same⟩
  · exact ⟨rfl, rfl, rfl, (Matcher.start_same same invocation).1⟩

/-- Two trackers are the same as far as the matchers of one factory are concerned. -/
structure Same (factory : Factory) (pairing : Pairing) (tracker other : Tracker) : Prop where
  /-- The factory is registered on one side. -/
  member : factory ∈ tracker.registry.factories
  /-- It is registered on the other side. -/
  otherMember : factory ∈ other.registry.factories
  /-- Names are distinct on one side. -/
  distinct : tracker.registry.names.Nodup
  /-- They are distinct on the other side. -/
  otherDistinct : other.registry.names.Nodup
  /-- Running invocations were issued on one side. -/
  bounded : tracker.Bounded
  /-- They were issued on the other side. -/
  otherBounded : other.Bounded
  /-- The scheduling is the same. -/
  deferBuffered : tracker.deferBuffered = other.deferBuffered
  /-- The limits are the same. -/
  limits : tracker.limits = other.limits
  /-- The next number is the same. -/
  nextId : tracker.nextId = other.nextId
  /-- The same invocations run. -/
  running : ∀ id, Option.Rel (pairing.SameRunning factory.name) (tracker.running? id)
    (other.running? id)
  /-- The regions of the factory are the same. -/
  table : pairing.SameTable tracker.limits factory.name tracker.table other.table

variable {factory : Factory} {pairing later : Pairing} {tracker other : Tracker}

/-- What two operations lead to is the same for a factory: the trackers and the requests. -/
structure SameResult (factory : Factory) (pairing : Pairing)
    (result other : Response × Tracker × Journal) : Prop where
  /-- The trackers are the same. -/
  tracker : result.2.1.Same factory pairing other.2.1
  /-- The requests are the same. -/
  requests : ∀ id, Journal.requestsOf result.2.2 factory.name id =
    Journal.requestsOf other.2.2 factory.name id

/--
Operations lead to the same if they do so for the invocation that they are about.

All other invocations are left alone on both sides.
-/
theorem Same.onward (same : tracker.Same factory pairing other)
    {operation otherOperation : Operation} (within : pairing.Within later)
    (addressed : tracker.addressee? operation = other.addressee? otherOperation)
    (nextId : (tracker.perform operation).2.1.nextId = (other.perform otherOperation).2.1.nextId)
    (table : later.SameTable tracker.limits factory.name (tracker.perform operation).2.1.table
      (other.perform otherOperation).2.1.table)
    (about : ∀ id, tracker.addressee? operation = some id →
      Option.Rel (later.SameRunning factory.name) ((tracker.perform operation).2.1.running? id)
          ((other.perform otherOperation).2.1.running? id) ∧
        Journal.requestsOf (tracker.perform operation).2.2 factory.name id =
          Journal.requestsOf (other.perform otherOperation).2.2 factory.name id) :
    SameResult factory later (tracker.perform operation) (other.perform otherOperation) := by
  -- Only the invocation that is worked on has to be looked at, since all others stay.
  obtain ⟨registry, deferBuffered, limits, _⟩ := tracker.perform_settled operation
  obtain ⟨otherRegistry, otherDeferBuffered, otherLimits, _⟩ := other.perform_settled otherOperation
  refine ⟨?_, fun id => ?_⟩
  · -- Registries, scheduling and limits are settled; only what runs asks for the addressee.
    constructor
    · rw [registry]; exact same.member
    · rw [otherRegistry]; exact same.otherMember
    · rw [registry]; exact same.distinct
    · rw [otherRegistry]; exact same.otherDistinct
    · exact same.bounded.perform operation
    · exact same.otherBounded.perform otherOperation
    · rw [deferBuffered, otherDeferBuffered, same.deferBuffered]
    · rw [limits, otherLimits, same.limits]
    · exact nextId
    · have earlier := fun id =>
        related_mono (fun _ _ equal => equal.mono within) (same.running id)
      exact related_perform same.bounded same.otherBounded earlier addressed
        fun id addressee => (about id addressee).1
    · rw [limits]; exact table
  · by_cases elsewhere : tracker.addressee? operation = some id
    · exact (about id elsewhere).2
    · rw [Journal.requestsOf, Journal.requestsOf, calls_perform_elsewhere elsewhere,
        calls_perform_elsewhere (addressed ▸ elsewhere)]

/-- Work on an invocation leads to the same if it does so while the invocation runs. -/
theorem Same.targeted (same : tracker.Same factory pairing other) {operation : Operation}
    {id : InvocationId} (target : operation.target? = some id)
    (work : ∀ running otherRunning, tracker.running? id = some running →
      other.running? id = some otherRunning →
      pairing.SameRunning factory.name running otherRunning →
        ∃ later, pairing.Within later ∧
          SameResult factory later (tracker.perform operation) (other.perform operation)) :
    ∃ later, pairing.Within later ∧
      SameResult factory later (tracker.perform operation) (other.perform operation) := by
  -- Either the invocation runs on both sides or on neither.
  rcases running_cases (same.running id) with
    ⟨gone, otherGone⟩ | ⟨running, otherRunning, found, rest⟩
  · -- Both sides refuse the work.
    rw [perform_gone target gone, perform_gone target otherGone]
    exact ⟨pairing, .refl pairing, same, fun _ => rfl⟩
  · exact work running otherRunning found rest.1 rest.2

/-- Beginning an invocation on both sides leads to the same. -/
theorem Same.begin (same : tracker.Same factory pairing other) (ignores : factory.IgnoresNumbers)
    (invocation : Invocation) :
    SameResult factory pairing (tracker.perform (.begin invocation))
      (other.perform (.begin invocation)) := by
  -- The number is the same on both sides, and so is the one attachment of the factory.
  have upcoming : other.upcoming = tracker.upcoming := by
    rw [Tracker.upcoming, Tracker.upcoming, same.nextId]
  obtain ⟨alone, asked⟩ :=
    Registry.resolve_single same.distinct same.member tracker.upcoming invocation
  obtain ⟨otherAlone, otherAsked⟩ :=
    Registry.resolve_single same.otherDistinct same.otherMember tracker.upcoming invocation
  obtain ⟨singles, started⟩ := attachAll_single
    ((Registry.resolve_names _ _ _).nodup same.distinct) alone tracker.deferBuffered
    tracker.upcoming invocation
  obtain ⟨otherSingles, otherStarted⟩ := attachAll_single
    ((Registry.resolve_names _ _ _).nodup same.otherDistinct) otherAlone tracker.deferBuffered
    tracker.upcoming invocation
  -- Both sides seat the one matcher that the factory attaches by itself.
  have seated : Option.Rel pairing.SameSlot
      ((factory.attachAlone tracker.upcoming invocation).1.bind fun attachment =>
        (seat tracker.deferBuffered tracker.upcoming invocation attachment).1)
      ((factory.attachAlone tracker.upcoming invocation).1.bind fun attachment =>
        (seat tracker.deferBuffered tracker.upcoming invocation attachment).1) := by
    cases attached : (factory.attachAlone tracker.upcoming invocation).1 with
    | none => exact .none
    | some attachment =>
      cases held : (seat tracker.deferBuffered tracker.upcoming invocation attachment).1 with
      | none => simp [held]
      | some slot =>
        have equal : pairing.SameSlot slot slot :=
          (seat_same (ignores.attaches attached) held).mono (List.nil_subset _)
        simpa [held] using Option.Rel.some equal
  refine same.onward (.refl pairing) ?_ ?_ ?_ fun id addressed => ?_
  · exact congrArg some upcoming.symm
  · rw [perform_begin, perform_begin, same.nextId]
  · rw [perform_begin, perform_begin]
    exact same.table
  · cases addressed
    rw [running?_perform_begin same.bounded, running?_perform_begin same.otherBounded, if_pos rfl,
      if_pos upcoming.symm, perform_begin, perform_begin, upcoming, ← same.deferBuffered]
    refine ⟨.some (Pairing.sameRunning_begun singles otherSingles seated invocation), ?_⟩
    rw [Journal.requestsOf_append, Journal.requestsOf_append]
    simp only [Journal.requestsOf, asked, otherAsked, started, otherStarted]

/-- Pushing a row on both sides leads to the same. -/
theorem Same.pushRow (same : tracker.Same factory pairing other) (id : InvocationId) (row : String)
    (wraps : Bool) :
    ∃ later, pairing.Within later ∧
      SameResult factory later (tracker.perform (.pushRow id row wraps))
        (other.perform (.pushRow id row wraps)) := by
  -- The invocation runs on both sides and gets the row on both.
  refine same.targeted rfl fun running otherRunning found otherFound equal => ?_
  -- Hooks may reserve and create here, so new pairs of numbers come in.
  obtain ⟨later, within, step⟩ := Running.push_same equal same.table id row wraps
  refine ⟨later, within, same.onward within rfl ?_ ?_ fun about addressed => ?_⟩
  · rw [perform_pushRow found, perform_pushRow otherFound]
    exact same.nextId
  · rw [perform_pushRow found, perform_pushRow otherFound, ← same.limits]
    exact step.table
  · cases addressed
    rw [perform_pushRow found, perform_pushRow otherFound, ← same.limits]
    dsimp only
    rw [running?_update_self found, running?_update_self otherFound]
    exact ⟨.some step.running, step.requests⟩

/-- Finishing an invocation on both sides leads to the same. -/
theorem Same.finish (same : tracker.Same factory pairing other) (id : InvocationId) (exitCode : Int)
    (totalRows : Nat) :
    ∃ later, pairing.Within later ∧
      SameResult factory later (tracker.perform (.finish id exitCode totalRows))
        (other.perform (.finish id exitCode totalRows)) := by
  -- The invocation runs on both sides and is completed on both.
  refine same.targeted rfl fun running otherRunning found otherFound equal => ?_
  -- Waiting matchers catch up here, on retained lines that are the same on both sides.
  obtain ⟨later, within, tables, requests⟩ :=
    Running.complete_same equal same.table id exitCode totalRows
  refine ⟨later, within, same.onward within rfl ?_ ?_ fun about addressed => ?_⟩
  · rw [perform_finish found, perform_finish otherFound]
    exact same.nextId
  · rw [perform_finish found, perform_finish otherFound, ← same.limits]
    exact tables
  · cases addressed
    rw [perform_finish found, perform_finish otherFound, ← same.limits]
    exact ⟨related_release id, requests⟩

/-- Abandoning an invocation on both sides leads to the same. -/
theorem Same.abandon (same : tracker.Same factory pairing other) (id : InvocationId) :
    ∃ later, pairing.Within later ∧
      SameResult factory later (tracker.perform (.abandon id)) (other.perform (.abandon id)) := by
  -- The invocation is released on both sides, and the tables stay.
  refine same.targeted rfl fun running otherRunning found otherFound _ => ?_
  refine ⟨pairing, .refl pairing,
    same.onward (.refl pairing) rfl ?_ ?_ fun about addressed => ?_⟩
  · rw [perform_abandon found, perform_abandon otherFound]
    exact same.nextId
  · rw [perform_abandon found, perform_abandon otherFound]
    exact same.table
  · cases addressed
    rw [perform_abandon found, perform_abandon otherFound]
    exact ⟨related_release id, rfl⟩

/-- Removing regions at the same places on both sides leads to the same. -/
theorem Same.evict (same : tracker.Same factory pairing other) {first second : RegionId}
    (together : (tracker.table.made factory.name).map (·.id != first) =
      (other.table.made factory.name).map (·.id != second)) :
    SameResult factory pairing (tracker.perform (.evict first)) (other.perform (.evict second)) :=
  -- Either eviction removes the regions of the matcher at the same places.
  same.onward (.refl pairing) rfl same.nextId (same.table.filter together)
    fun _ addressed => nomatch addressed

/-- Removing all regions of an invocation on both sides leads to the same. -/
theorem Same.evictInvocation (same : tracker.Same factory pairing other) (id : InvocationId) :
    SameResult factory pairing (tracker.perform (.evictInvocation id))
      (other.perform (.evictInvocation id)) := by
  -- Regions are taken out, and nothing is called.
  refine same.onward (.refl pairing) rfl same.nextId (same.table.filter ?_)
    fun _ addressed => nomatch addressed
  -- Regions that are the same belong to the same invocation.
  have regions := same.table.regions
  generalize tracker.table.made factory.name = made,
    other.table.made factory.name = otherMade at regions
  induction regions with
  | nil => rfl
  | cons equal _ ih => rw [List.map_cons, List.map_cons, ih, equal.invocation]

end Tracker

/--
Two operations are the same as far as a matcher is concerned.

Numbers of regions differ between two trackers, so removing a region names it by its place among
the regions of the matcher, or names none of these on either side.
-/
inductive Operation.Matches (matcher : String) (table other : RegionTable) :
    Operation → Operation → Prop
  /-- Operations that name no region are the same. -/
  | same {operation : Operation} (unnamed : ∀ id, operation ≠ .evict id) :
    Matches matcher table other operation operation
  /-- Both remove a region. -/
  | evict {first second : RegionId}
    (together : (table.made matcher).map (·.id != first) =
      (other.made matcher).map (·.id != second)) :
    Matches matcher table other (.evict first) (.evict second)

namespace Tracker

/-- Two sequences of operations are the same, one by one, when they start from two trackers. -/
inductive Abreast (matcher : String) (tracker other : Tracker) :
    List Operation → List Operation → Prop
  /-- Nothing has been done. -/
  | nil : Abreast matcher tracker other [] []
  /-- The same is done on both sides. -/
  | concat {operations others : List Operation} {operation next : Operation}
    (earlier : Abreast matcher tracker other operations others)
    (same : operation.Matches matcher (tracker.course operations).tracker.table
      (other.course others).tracker.table next) :
    Abreast matcher tracker other (operations ++ [operation]) (others ++ [next])

/-- Operations that remove no region by its number are the same on both sides. -/
theorem Abreast.refl {matcher : String} {tracker other : Tracker} {operations : List Operation}
    (unnamed : ∀ operation ∈ operations, ∀ id, operation ≠ .evict id) :
    Abreast matcher tracker other operations operations := by
  -- Induction on the operations from their end, none of which names a region.
  induction operations using List.reverseRecOn with
  | nil => exact .nil
  | append_singleton operations operation ih =>
    refine .concat (ih fun one member => unnamed one (List.mem_append_left _ member)) ?_
    exact .same (unnamed operation (List.mem_append_right _ (List.mem_singleton.mpr rfl)))

variable {factory : Factory} {pairing : Pairing} {tracker other : Tracker}

/-- The same operation on both sides leads to the same. -/
theorem Same.perform (same : tracker.Same factory pairing other) (ignores : factory.IgnoresNumbers)
    {operation next : Operation}
    (equal : operation.Matches factory.name tracker.table other.table next) :
    ∃ later, pairing.Within later ∧
      SameResult factory later (tracker.perform operation) (other.perform next) := by
  -- One case for each operation, and evictions of regions apart, as they name numbers.
  cases equal with
  | evict together => exact ⟨pairing, .refl pairing, same.evict together⟩
  | same unnamed =>
    cases operation with
    | begin invocation => exact ⟨pairing, .refl pairing, same.begin ignores invocation⟩
    | pushRow id row wraps => exact same.pushRow id row wraps
    | finish id exitCode totalRows => exact same.finish id exitCode totalRows
    | abandon id => exact same.abandon id
    | evict id => exact absurd rfl (unnamed id)
    | evictInvocation id => exact ⟨pairing, .refl pairing, same.evictInvocation id⟩

/-- The same operations on both sides leave the same after the same requests. -/
theorem Same.course (same : tracker.Same factory pairing other) (ignores : factory.IgnoresNumbers)
    {operations others : List Operation}
    (abreast : Abreast factory.name tracker other operations others) :
    ∃ later, pairing.Within later ∧
      (tracker.course operations).tracker.Same factory later (other.course others).tracker ∧
        ∀ id, Journal.requestsOf (tracker.course operations).journal factory.name id =
          Journal.requestsOf (other.course others).journal factory.name id := by
  -- The induction adds one operation on each side, which may pair more numbers.
  induction abreast with
  | nil => exact ⟨pairing, .refl pairing, same, fun _ => rfl⟩
  | concat earlier equal ih =>
    obtain ⟨middle, within, reached, requests⟩ := ih
    obtain ⟨later, beyond, result⟩ := reached.perform ignores equal
    rw [course_concat, course_concat, Course.follow_tracker, Course.follow_tracker]
    refine ⟨later, within.trans beyond, result.tracker, fun id => ?_⟩
    rw [Course.follow_journal, Course.follow_journal, Journal.requestsOf_append,
      Journal.requestsOf_append, requests id, result.requests id]

end Tracker

end Annotator

import Annotator.Proofs.Tracker.History
import Annotator.Script
import Mathlib.Data.List.Basic

/-! Every number goes once through its life: not issued, running and then done for good. -/

namespace Annotator

namespace Operation

/-- An operation begins an invocation. -/
def begins : Operation → Bool
  -- Which one is issued is up to the tracker.
  | .begin _ => true
  | _ => false

/-- An operation ends an invocation if it is accepted. -/
def ends (id : InvocationId) : Operation → Bool
  -- Completing and giving up differ in what they call, not in what they leave behind.
  | .finish other _ _ | .abandon other => other == id
  | .begin _ | .pushRow .. | .evict _ | .evictInvocation _ => false

/-- An operation that ends an invocation works on it. -/
theorem target?_of_ends {operation : Operation} {id : InvocationId}
    (ends : operation.ends id = true) : operation.target? = some id := by
  -- Only two operations end an invocation, and both are addressed to it.
  cases operation with
  | finish other exitCode totalRows => simpa [Operation.ends, target?] using ends
  | abandon other => simpa [Operation.ends, target?] using ends
  | _ => cases ends

end Operation

namespace Response

/-- The number that a response issues. -/
def issued? : Response → Option InvocationId
  -- No other response brings up a new number.
  | .issued id => some id
  | _ => none

end Response

namespace Tracker

variable {tracker start : Tracker} {operations : List Operation} {id : InvocationId}

/-- The numbers of the invocations that are running, in the order in which they were begun. -/
def runningIds (tracker : Tracker) : List InvocationId :=
  -- No two of them are equal.
  tracker.running.map (·.1)

/-- An invocation is found exactly if its number is among the running ones. -/
theorem isSome_running? : (tracker.running? id).isSome = true ↔ id ∈ tracker.runningIds := by
  -- What runs is looked up by its number.
  simp [running?, runningIds]

/-- An update changes no number. -/
theorem runningIds_update (running : Running) (table : RegionTable) :
    (tracker.update id running table).runningIds = tracker.runningIds := by
  -- The pair that is replaced keeps its number.
  unfold runningIds update
  rw [List.map_map]
  refine List.map_congr_left fun pair _ => ?_
  by_cases same : pair.1 = id <;> simp [same]

/-- A release takes its own number away. -/
theorem runningIds_release :
    (tracker.release id).runningIds = tracker.runningIds.filter fun other => !(id == other) := by
  -- The pairs are kept by their numbers.
  unfold runningIds release
  rw [List.filter_map]
  refine congrArg _ (List.filter_congr fun pair _ => ?_)
  exact congrArg _ Bool.beq_comm

/-- An operation adds the number that it issues, and takes out the one that it ends. -/
theorem runningIds_perform (tracker : Tracker) (operation : Operation) :
    (tracker.perform operation).2.1.runningIds =
      (tracker.runningIds ++ (tracker.perform operation).1.issued?.toList).filter fun id =>
        !(operation.ends id && decide ((tracker.perform operation).1 = .accepted)) := by
  -- What ends no number leaves all of them, and a release takes away its own.
  cases operation with
  | begin invocation =>
    rw [perform_begin]
    simp [runningIds, Response.issued?, Operation.ends]
  | pushRow id row wraps =>
    cases present : tracker.running? id with
    | none =>
      rw [perform_gone rfl present]
      simp [Response.issued?, Operation.ends]
    | some running =>
      rw [perform_pushRow present]
      simp [runningIds_update, Response.issued?, Operation.ends]
  | finish id exitCode totalRows =>
    cases present : tracker.running? id with
    | none =>
      rw [perform_gone rfl present]
      simp [Response.issued?]
    | some running =>
      rw [perform_finish present]
      simp only [Response.issued?, Operation.ends, Option.toList_none, List.append_nil, decide_true,
        Bool.and_true]
      exact runningIds_release
  | abandon id =>
    cases present : tracker.running? id with
    | none =>
      rw [perform_gone rfl present]
      simp [Response.issued?]
    | some running =>
      rw [perform_abandon present]
      simpa [Response.issued?, Operation.ends] using runningIds_release
  | evict id =>
    simp [perform, evict, runningIds, Response.issued?, Operation.ends]
  | evictInvocation id =>
    simp [perform, evictInvocation, runningIds, Response.issued?, Operation.ends]

/-- Exactly the operations that begin an invocation issue a number, the next one. -/
theorem issued_perform (tracker : Tracker) (operation : Operation) :
    (tracker.perform operation).1.issued? =
        (if operation.begins then some tracker.upcoming else none) ∧
      (tracker.perform operation).2.1.nextId =
        tracker.nextId + if operation.begins then 1 else 0 := by
  -- Only a beginning issues a number, whether the others are accepted or refused.
  cases operation with
  | begin invocation => rw [perform_begin]; exact ⟨rfl, rfl⟩
  | pushRow id row wraps =>
    cases present : tracker.running? id with
    | none => rw [perform_gone rfl present]; exact ⟨rfl, rfl⟩
    | some running => rw [perform_pushRow present]; exact ⟨rfl, rfl⟩
  | finish id exitCode totalRows =>
    cases present : tracker.running? id with
    | none => rw [perform_gone rfl present]; exact ⟨rfl, rfl⟩
    | some running => rw [perform_finish present]; exact ⟨rfl, rfl⟩
  | abandon id =>
    cases present : tracker.running? id with
    | none => rw [perform_gone rfl present]; exact ⟨rfl, rfl⟩
    | some running => rw [perform_abandon present]; exact ⟨rfl, rfl⟩
  | evict id => exact ⟨rfl, rfl⟩
  | evictInvocation id => exact ⟨rfl, rfl⟩

/-- Only an invocation that runs can be ended. -/
theorem running_of_ended {operation : Operation} (ends : operation.ends id = true)
    (accepted : (tracker.perform operation).1 = .accepted) : id ∈ tracker.runningIds := by
  -- An operation on what does not run is refused.
  rw [← isSome_running?]
  cases found : tracker.running? id with
  | some running => rfl
  | none =>
    rw [perform_gone (Operation.target?_of_ends ends) found] at accepted
    cases accepted

/-- The numbers that a tracker issued in the course of operations, in order. -/
def issuedIn (start : Tracker) (operations : List Operation) : List InvocationId :=
  -- The host learns of them from the responses.
  (start.course operations).responses.filterMap Response.issued?

/-- An operation that ends an invocation was accepted in the course of operations. -/
def endedIn (start : Tracker) (operations : List Operation) (id : InvocationId) : Bool :=
  -- Attempts that were refused do not count.
  (operations.zip (start.course operations).responses).any fun told =>
    told.1.ends id && decide (told.2 = .accepted)

/-- The last operation issues its number last. -/
theorem issuedIn_concat (operation : Operation) :
    start.issuedIn (operations ++ [operation]) = start.issuedIn operations ++
      ((start.course operations).tracker.perform operation).1.issued?.toList := by
  -- The response of the last operation is the last one.
  unfold issuedIn
  rw [course_concat, Course.follow_responses, List.filterMap_append]
  cases asked : ((start.course operations).tracker.perform operation).1.issued? <;> simp [asked]

/-- The last operation may end what has not ended before. -/
theorem endedIn_concat (operation : Operation) :
    start.endedIn (operations ++ [operation]) id = (start.endedIn operations id ||
      (operation.ends id &&
        decide (((start.course operations).tracker.perform operation).1 = .accepted))) := by
  -- The response of the last operation is the last one.
  simp [endedIn, zip_responses_concat]

/-- What was issued and ended stays so in the course of further operations. -/
theorem stays_ended (start : Tracker) (later : List Operation)
    (issued : id ∈ start.issuedIn operations) (ended : start.endedIn operations id = true) :
    id ∈ start.issuedIn (operations ++ later) ∧
      start.endedIn (operations ++ later) id = true := by
  -- Induction on the later operations from their end, none of which takes anything back.
  induction later using List.reverseRecOn with
  | nil => simpa using ⟨issued, ended⟩
  | append_singleton later operation ih =>
    rw [← List.append_assoc, issuedIn_concat, endedIn_concat, ih.2]
    exact ⟨List.mem_append_left _ ih.1, rfl⟩

/-- The running invocations of a course are exactly those that were issued and not ended. -/
structure Accounts (start : Tracker) (operations : List Operation) : Prop where
  /-- One number was issued for each invocation that was begun. -/
  nextId : (start.course operations).tracker.nextId = operations.countP Operation.begins + 1
  /-- Numbers were issued in sequence from one. -/
  issued : start.issuedIn operations =
    (List.range' 1 (operations.countP Operation.begins)).map InvocationId.mk
  /-- Whatever was issued runs until it is ended. -/
  running : (start.course operations).tracker.runningIds =
    (start.issuedIn operations).filter fun id => !start.endedIn operations id
  /-- Only what was issued is ended. -/
  ended : ∀ id, start.endedIn operations id = true → id ∈ start.issuedIn operations

/-- Numbers were issued up to the next one. -/
theorem Accounts.mem_issuedIn (accounts : start.Accounts operations) :
    id ∈ start.issuedIn operations ↔
      (start.course operations).tracker.wasIssued id = true := by
  -- Numbers are issued in order, beginning with one.
  obtain ⟨number⟩ := id
  rw [accounts.issued]
  simp only [wasIssued, accounts.nextId, List.mem_map, List.mem_range'_1, InvocationId.mk.injEq,
    exists_eq_right, Bool.and_eq_true, decide_eq_true_eq]
  omega

/-- One more operation keeps the accounts. -/
theorem Accounts.perform (accounts : start.Accounts operations) (operation : Operation) :
    start.Accounts (operations ++ [operation]) := by
  -- The last operation issues one number at most, and ends one at most.
  obtain ⟨issues, next⟩ := issued_perform (start.course operations).tracker operation
  have followed : (start.course (operations ++ [operation])).tracker =
      ((start.course operations).tracker.perform operation).2.1 := by
    rw [course_concat, Course.follow_tracker]
  have counted : (operations ++ [operation]).countP Operation.begins =
      operations.countP Operation.begins + if operation.begins then 1 else 0 := by
    simp [List.countP_append, List.countP_singleton]
  have upcoming : (start.course operations).tracker.upcoming =
      ⟨operations.countP Operation.begins + 1⟩ := congrArg InvocationId.mk accounts.nextId
  have ended : ∀ id, start.endedIn (operations ++ [operation]) id = true →
      id ∈ start.issuedIn operations := by
    intro id ended
    rw [endedIn_concat, Bool.or_eq_true, Bool.and_eq_true, decide_eq_true_eq] at ended
    rcases ended with early | ⟨ends, accepted⟩
    · exact accounts.ended id early
    · have ran := running_of_ended ends accepted
      rw [accounts.running] at ran
      exact (List.mem_filter.mp ran).1
  refine ⟨?_, ?_, ?_, fun id done => ?_⟩
  · rw [followed, next, accounts.nextId, counted]
    omega
  · rw [issuedIn_concat, issues, accounts.issued, counted, upcoming]
    cases operation.begins with
    | true => simp [List.range'_concat, Nat.add_comm]
    | false => simp
  · rw [followed, runningIds_perform, accounts.running, issuedIn_concat, List.filter_append,
      List.filter_append, List.filter_filter]
    congr 1
    · refine List.filter_congr fun id _ => ?_
      rw [endedIn_concat, Bool.not_or, Bool.and_comm]
    · -- The number that is issued now was never ended.
      refine List.filter_congr fun id added => ?_
      have fresh : start.endedIn operations id = false := by
        rw [Bool.eq_false_iff]
        intro early
        rw [issues, Option.mem_toList] at added
        split at added
        · cases added
          have old := accounts.ended _ early
          rw [accounts.mem_issuedIn] at old
          simp [wasIssued, Tracker.upcoming] at old
        · cases added
      rw [endedIn_concat, fresh, Bool.false_or]
  · rw [issuedIn_concat]
    exact List.mem_append_left _ (ended id done)

/-- Whatever is asked of a fresh tracker, it keeps its accounts. -/
theorem course_accounts (registry : Registry) (deferBuffered : Bool) (limits : Limits)
    (operations : List Operation) :
    (ofRegistry registry deferBuffered limits).Accounts operations := by
  -- Induction on the operations from their end, each of which keeps the accounts.
  induction operations using List.reverseRecOn with
  | nil => exact ⟨rfl, rfl, rfl, fun _ ended => nomatch ended⟩
  | append_singleton operations operation ih => exact ih.perform operation

namespace Accounts

variable (accounts : start.Accounts operations)
include accounts

/-- An invocation is found exactly if it was issued and not ended. -/
theorem isSome_running? :
    ((start.course operations).tracker.running? id).isSome = true ↔
      id ∈ start.issuedIn operations ∧ start.endedIn operations id = false := by
  -- What runs has been issued and not been ended.
  rw [Tracker.isSome_running?, accounts.running, List.mem_filter, Bool.not_eq_true']

/-- The phase of an invocation tells whether it was issued and whether it was ended. -/
theorem phase? (id : InvocationId) :
    (start.course operations).tracker.phase? id =
      if id ∈ start.issuedIn operations then
        if start.endedIn operations id then some .done else some .running
      else none := by
  -- The tracker knows what runs and which numbers were issued, as the accounts say.
  have runs : ((start.course operations).tracker.running? id).isSome = true ↔ _ :=
    accounts.isSome_running?
  have issued : id ∈ start.issuedIn operations ↔ _ := accounts.mem_issuedIn
  unfold Tracker.phase?
  by_cases known : id ∈ start.issuedIn operations
  · cases ended : start.endedIn operations id <;> simp [runs, ← issued, known, ended]
  · simp [runs, ← issued, known]

/-- An invocation that is not running is found no more, and why work on it is refused shows
whether it was issued. -/
theorem refusal (id : InvocationId) :
    (start.course operations).tracker.refusal id =
      if id ∈ start.issuedIn operations then .alreadyFinished id else .unknownInvocation id := by
  -- The tracker knows which numbers were issued, as the accounts say.
  rw [Tracker.refusal]
  simp only [accounts.mem_issuedIn]

end Accounts

end Tracker

namespace Slot

/-- The names of the slots that take or wait for lines. -/
def openNames (slots : List Slot) : List String :=
  -- Their order is kept.
  (slots.filter isOpen).map (·.name)

/-- A slot that takes or waits for lines after a line did so before it. -/
theorem isOpen_of_deliver {stage : Stage} {slot : Slot} {table : RegionTable} {line : LogicalLine}
    (later : (slot.deliver stage table line).1.isOpen = true) : slot.isOpen = true := by
  -- A slot that is not active is not changed by a line.
  by_cases active : slot.status = .active
  · simp [isOpen, active]
  · rwa [deliver_of_not_active active] at later

/-- Slots that keep their names and never open again only drop out. -/
theorem openNames_each {step : Slot → RegionTable → Slot × RegionTable × Journal}
    (named : ∀ slot table, (step slot table).1.name = slot.name)
    (opened : ∀ slot table, (step slot table).1.isOpen = true → slot.isOpen = true)
    (slots : List Slot) (table : RegionTable) :
    (openNames (each step slots table).1).Sublist (openNames slots) := by
  -- Induction on the slots, each of which keeps its name and opens only if it was open.
  induction slots generalizing table with
  | nil => exact List.Sublist.refl _
  | cons slot rest ih =>
    have later := ih (step slot table).2.1
    have same := named slot table
    have before := opened slot table
    unfold openNames at later ⊢
    rw [each]
    dsimp only
    cases open' : (step slot table).1.isOpen with
    | true =>
      rw [List.filter_cons_of_pos open', List.filter_cons_of_pos (before open'), List.map_cons,
        List.map_cons, same]
      exact later.cons_cons _
    | false =>
      rw [List.filter_cons_of_neg (by simp [open'])]
      refine later.trans (List.Sublist.map _ (List.Sublist.filter _ (List.sublist_cons_self _ _)))

end Slot

namespace Running

/-- A pushed row opens no slot. -/
theorem openNames_push (id : InvocationId) (limits : Limits) (running : Running)
    (table : RegionTable) (row : String) (wraps : Bool) :
    (Slot.openNames (running.push id limits table row wraps).1.slots).Sublist
      (Slot.openNames running.slots) := by
  -- Without a completed line no slot is changed.
  rw [push_eq]
  cases (running.buffer.push row wraps).1 with
  | none => exact List.Sublist.refl _
  | some line =>
    rw [deliverIfAny, deliver_eq]
    exact Slot.openNames_each (fun slot table => (Slot.deliver_keeps _ slot table line).1)
      (fun _ _ later => Slot.isOpen_of_deliver later) _ _

end Running

namespace Tracker

variable {tracker : Tracker} {id : InvocationId}

/-- The active matchers of what runs are those of its open slots. -/
theorem activeMatchers_of_running {running : Running}
    (present : tracker.running? id = some running) :
    tracker.activeMatchers id = Slot.openNames running.slots := by
  -- The invocation is found.
  rw [activeMatchers, present, Slot.openNames]

/-- What does not run has no active matchers. -/
theorem activeMatchers_of_gone (gone : tracker.running? id = none) :
    tracker.activeMatchers id = [] := by
  -- The invocation is not found.
  rw [activeMatchers, gone]

/-- An issued invocation gains no active matcher by any operation. -/
theorem activeMatchers_perform (bounded : tracker.Bounded) (issued : id.number < tracker.nextId)
    (operation : Operation) :
    ((tracker.perform operation).2.1.activeMatchers id).Sublist (tracker.activeMatchers id) := by
  -- Operations on others do not matter, and those on the invocation open no slot again.
  by_cases targeted : operation.target? = some id
  · cases present : tracker.running? id with
    | none =>
      simp only [perform_gone targeted present, List.Sublist.refl]
    | some running =>
      cases operation with
      | pushRow other row wraps =>
        cases targeted
        rw [perform_pushRow present, activeMatchers_of_running present,
          activeMatchers_of_running (running?_update_self present _ _)]
        exact running.openNames_push id tracker.limits tracker.table row wraps
      | finish other exitCode totalRows =>
        cases targeted
        have gone : (tracker.perform (.finish id exitCode totalRows)).2.1.running? id = none := by
          rw [perform_finish present]
          exact running?_release_self
        rw [activeMatchers_of_gone gone]
        exact List.nil_sublist _
      | abandon other =>
        cases targeted
        rw [perform_abandon present, activeMatchers_of_gone running?_release_self]
        exact List.nil_sublist _
      | begin invocation => cases targeted
      | evict region => cases targeted
      | evictInvocation other => cases targeted
  · have same := running?_perform_elsewhere bounded (addressee?_ne issued targeted)
    simp only [activeMatchers, same, List.Sublist.refl]

/-- An issued invocation gains no active matcher in the course of any operations. -/
theorem activeMatchers_course (bounded : tracker.Bounded) (issued : id.number < tracker.nextId)
    (operations : List Operation) :
    ((tracker.course operations).tracker.activeMatchers id).Sublist
      (tracker.activeMatchers id) := by
  -- Induction on the operations from their end, none of which opens a slot again.
  induction operations using List.reverseRecOn with
  | nil => exact List.Sublist.refl _
  | append_singleton operations operation ih =>
    obtain ⟨kept, settled⟩ := course_settled bounded operations
    rw [course_concat, Course.follow_tracker]
    exact (activeMatchers_perform kept (Nat.lt_of_lt_of_le issued settled.nextId) operation).trans
      ih

/-- The active matchers of an invocation that was just begun attached to it. -/
theorem activeMatchers_begin (bounded : tracker.Bounded) (invocation : Invocation) :
    ((tracker.perform (.begin invocation)).2.1.activeMatchers tracker.upcoming).Sublist
      ((tracker.registry.resolve tracker.upcoming invocation).1.map (·.name)) := by
  -- Each slot is seated for an attachment, in the same order.
  rw [activeMatchers, running?_perform_begin bounded, if_pos rfl]
  exact (List.filter_sublist.map _).trans (attachAll_names _)

/-- The active matchers of an invocation attached to it, and none is added later. -/
theorem activeMatchers_since (bounded : tracker.Bounded) (before : List Operation)
    (invocation : Invocation) (early late : List Operation) :
    let id := (tracker.course before).tracker.upcoming
    let soon := (tracker.course (before ++ .begin invocation :: early)).tracker.activeMatchers id
    soon.Sublist ((tracker.registry.resolve id invocation).1.map (·.name)) ∧
      ((tracker.course (before ++ .begin invocation :: (early ++ late))).tracker.activeMatchers
        id).Sublist soon := by
  -- The course is cut at the beginning of the invocation, and again behind the early operations.
  dsimp only
  obtain ⟨reached, settled⟩ := course_settled bounded before
  generalize begun : ((tracker.course before).tracker.perform (.begin invocation)).2.1 = first
  have since (operations : List Operation) :
      (tracker.course (before ++ .begin invocation :: operations)).tracker =
        (first.course operations).tracker := by
    rw [(course_append tracker before _).1, course_cons, ← begun]
  have issued : (tracker.course before).tracker.upcoming.number < first.nextId := by
    rw [← begun, perform_begin]
    exact Nat.lt_succ_self _
  have kept : first.Bounded := begun ▸ reached.perform _
  have attached := activeMatchers_begin reached invocation
  rw [begun, settled.registry] at attached
  obtain ⟨later, onward⟩ := course_settled kept early
  rw [since, since, (course_append first early late).1]
  exact ⟨(activeMatchers_course kept issued early).trans attached,
    activeMatchers_course later (Nat.lt_of_lt_of_le issued onward.nextId) late⟩

end Tracker

open Tracker in
/--
Every number lives once, whatever is asked of a tracker in whatever order: it is issued, it runs
until it is ended for the first time, and then it is done. Work on a number that is not running is
refused with the reason and changes nothing at all.
-/
theorem invocation_lifecycle (registry : Registry) (deferBuffered : Bool) (limits : Limits)
    (operations : List Operation) :
    let start := Tracker.ofRegistry registry deferBuffered limits
    let tracker := (start.course operations).tracker
    let issued := start.issuedIn operations
    -- Numbers are issued in sequence from one, so none of them is issued twice.
    issued = (List.range' 1 (operations.countP Operation.begins)).map InvocationId.mk ∧
    -- The phase tells whether a number was issued and whether it was ended since.
    (∀ id, tracker.phase? id =
      if id ∈ issued then if start.endedIn operations id then some .done else some .running
      else none) ∧
    (∀ id later, tracker.phase? id = some .done →
      (start.course (operations ++ later)).tracker.phase? id = some .done) ∧
    tracker.size = issued.countP (fun id => tracker.phase? id = some .running) ∧
    -- Exactly the work on numbers that are not running is refused, calls nothing and changes
    -- nothing.
    (∀ operation id, operation.target? = some id →
      (tracker.phase? id = some .running → (tracker.perform operation).1 = .accepted) ∧
      (tracker.phase? id ≠ some .running →
        tracker.perform operation =
          (.refused (if id ∈ issued then .alreadyFinished id else .unknownInvocation id),
            tracker, []))) ∧
    -- Since its beginning an invocation has had active matchers that attached, and gained none.
    (∀ before invocation early late, operations = before ++ .begin invocation :: (early ++ late) →
      let id := (start.course before).tracker.upcoming
      let soon := (start.course (before ++ .begin invocation :: early)).tracker.activeMatchers id
      ((start.course before).tracker.perform (.begin invocation)).1 = .issued id ∧
        soon.Sublist ((registry.resolve id invocation).1.map (·.name)) ∧
        (tracker.activeMatchers id).Sublist soon) ∧
    ∀ id, tracker.phase? id ≠ some .running → tracker.activeMatchers id = [] := by
  -- All parts are read off the accounts of the operations.
  intro start tracker issued
  have accounts : start.Accounts operations :=
    course_accounts registry deferBuffered limits operations
  have running (id : InvocationId) :
      tracker.phase? id = some .running ↔ (tracker.running? id).isSome = true := by
    unfold Tracker.phase?
    cases (tracker.running? id).isSome with
    | true => simp
    | false => cases tracker.wasIssued id <;> simp
  have gone (id : InvocationId) (still : tracker.phase? id ≠ some .running) :
      tracker.running? id = none := by
    rw [Ne, running] at still
    simpa using still
  refine ⟨accounts.issued, accounts.phase?, fun id later done => ?_, ?_,
    fun operation id targeted => ⟨fun runs => ?_, fun still => ?_⟩, ?_, fun id still => ?_⟩
  · -- What was issued and ended stays so.
    have onward : start.Accounts (operations ++ later) :=
      course_accounts registry deferBuffered limits _
    rw [accounts.phase?] at done
    have both : id ∈ start.issuedIn operations ∧ start.endedIn operations id = true := by
      by_contra other
      split at done <;> simp_all
    rw [onward.phase?]
    have kept := start.stays_ended later both.1 both.2
    rw [if_pos kept.1, if_pos kept.2]
  · show tracker.running.length = _
    have counted : tracker.running.length = tracker.runningIds.length := by
      rw [runningIds, List.length_map]
    rw [counted, accounts.running, ← List.countP_eq_length_filter]
    refine List.countP_congr fun id member => ?_
    rw [accounts.phase?, if_pos member]
    cases start.endedIn operations id <;> simp
  · obtain ⟨found, present⟩ := Option.isSome_iff_exists.mp ((running id).mp runs)
    cases operation with
    | pushRow other row wraps => cases targeted; rw [perform_pushRow present]
    | finish other exitCode totalRows => cases targeted; rw [perform_finish present]
    | abandon other => cases targeted; rw [perform_abandon present]
    | begin invocation => cases targeted
    | evict region => cases targeted
    | evictInvocation other => cases targeted
  · rw [perform_gone targeted (gone id still), accounts.refusal]
  · rintro before invocation early late rfl
    have bounded : start.Bounded := bounded_ofRegistry registry deferBuffered limits
    exact ⟨by rw [perform_begin], activeMatchers_since bounded before invocation early late⟩
  · exact activeMatchers_of_gone (gone id still)

/-- A number that was given up is done for good, and number zero is never known. -/
theorem invocation_lifecycle_abandoned :
    let halting : Script := { name := "halting", fast := true, other := [.stop] }
    let operations : List Operation :=
      [.begin { command := "ls" }, .pushRow ⟨1⟩ "a" false, .begin { command := "ls" },
        .abandon ⟨1⟩]
    let start := Tracker.ofRegistry { factories := [halting.factory] } true {}
    let tracker := (start.course operations).tracker
    (start.course [.begin { command := "ls" }]).tracker.activeMatchers ⟨1⟩ = ["halting"] ∧
      tracker.phase? ⟨1⟩ = some .done ∧ tracker.phase? ⟨2⟩ = some .running ∧
      tracker.phase? ⟨0⟩ = none ∧
      (∀ later, (start.course (operations ++ later)).tracker.phase? ⟨1⟩ = some .done) ∧
      tracker.perform (.finish ⟨1⟩ 0 1) = (.refused (.alreadyFinished ⟨1⟩), tracker, []) ∧
      tracker.perform (.pushRow ⟨0⟩ "b" false) =
        (.refused (.unknownInvocation ⟨0⟩), tracker, []) := by
  -- One invocation is abandoned and another still runs, while the last was never begun.
  intro halting operations start tracker
  have done : tracker.phase? ⟨1⟩ = some .done := by decide
  have unknown : tracker.phase? ⟨0⟩ = none := by decide
  obtain ⟨_, _, ever, _, work, _⟩ :=
    invocation_lifecycle { factories := [halting.factory] } true {} operations
  exact ⟨by decide, done, by decide, unknown, fun later => ever ⟨1⟩ later done,
    (work (.finish ⟨1⟩ 0 1) ⟨1⟩ rfl).2 (by rw [done]; decide),
    (work (.pushRow ⟨0⟩ "b" false) ⟨0⟩ rfl).2 (by rw [unknown]; decide)⟩

end Annotator

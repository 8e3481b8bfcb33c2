import Annotator.Proofs.Tracker.CoupledRunning
import Annotator.Proofs.Tracker.StoredRegions

/-!
Any number of invocations may be tracked together: each of them goes as it would go on a tracker of
its own, up to its number and the numbers of its regions.
-/

namespace Annotator

/-- A region as that of another invocation. -/
def Region.readdressed (id : InvocationId) (region : Region) : Region :=
  -- What it shows does not mention its invocation.
  { region with invocation := id }

/-- An error as it would be reported about another invocation. -/
def TrackerError.readdressed (id : InvocationId) : TrackerError → TrackerError
  -- Both errors name the invocation.
  | .unknownInvocation _ => .unknownInvocation id
  | .alreadyFinished _ => .alreadyFinished id

/-- A response as it would be given about another invocation. -/
def Response.readdressed (id : InvocationId) : Response → Response
  -- Responses about regions name no invocation.
  | .issued _ => .issued id
  | .refused error => .refused (error.readdressed id)
  | response => response

namespace Operation

/-- An operation as one on another invocation. -/
def readdressed (id : InvocationId) : Operation → Operation
  -- Beginning and removing regions work on no running invocation.
  | .pushRow _ row wraps => .pushRow id row wraps
  | .finish _ exitCode totalRows => .finish id exitCode totalRows
  | .abandon _ => .abandon id
  | operation => operation

/-- An operation evicts when it removes regions. -/
def evicts : Operation → Bool
  -- All other operations only add regions.
  | .evict _ | .evictInvocation _ => true
  | .begin _ | .pushRow .. | .finish .. | .abandon _ => false

end Operation

namespace Tracker

/-- The responses to the operations that are about an invocation. -/
def answers (tracker : Tracker) (id : InvocationId) : List Operation → List Response
  -- Each operation finds the tracker that the one before it left.
  | [] => []
  | operation :: later =>
    let (response, next, _) := tracker.perform operation
    let own := if tracker.addressee? operation = some id then [response] else []
    own ++ next.answers id later

/-- The operations on an invocation, as those on the first invocation of a tracker of its own. -/
def apart (id : InvocationId) (operations : List Operation) : List Operation :=
  -- Their order is kept.
  (operations.filter (·.target? == some id)).map (·.readdressed .first)

end Tracker

namespace Registry

variable (id other : InvocationId) (invocation : Invocation)

/-- A factory is consulted and builds the same whatever the number of the invocation. -/
theorem consult_readdressed (factory : Factory) (site : Site) :
    (consult factory id invocation site).1 = (consult factory other invocation site).1 ∧
      Journal.requests (consult factory id invocation site).2 id =
        Journal.requests (consult factory other invocation site).2 other := by
  -- The factory is not told which invocation it is asked about.
  unfold consult
  cases answer : factory.accepts site.command invocation.workingDir with
  | error fault => simp [Journal.requests, Call.readdressed]
  | ok wanted =>
    cases wanted with
    | false => simp [Journal.requests, Call.readdressed]
    | true =>
      cases built : factory.create site with
      | mk notes result => cases result <;> simp [Journal.requests, Call.readdressed]

/-- The same factories attach the same whatever the number of the invocation. -/
theorem resolve_readdressed (registry : Registry) :
    (registry.resolve id invocation).1 = (registry.resolve other invocation).1 ∧
      Journal.requests (registry.resolve id invocation).2 id =
        Journal.requests (registry.resolve other invocation).2 other := by
  -- Induction on the factories, none of which is told the number of the invocation.
  rw [resolve_eq, resolve_eq]
  split
  · exact ⟨rfl, rfl⟩
  · induction registry.factories with
    | nil => exact ⟨rfl, rfl⟩
    | cons factory rest ih =>
      obtain ⟨attached, asked⟩ :=
        consult_readdressed id other invocation factory (siteOf invocation)
      simp only [consultAll, Journal.requests_append, attached, asked, ih, and_self]

end Registry

namespace Tracker

/-- An operation that is not about an invocation adds no region of it. -/
theorem grows_elsewhere {tracker : Tracker} {id : InvocationId} {operation : Operation}
    (keeps : operation.evicts = false) (elsewhere : tracker.addressee? operation ≠ some id) :
    tracker.table.Grows (fun region => region.isOf id = false)
      (tracker.perform operation).2.1.table := by
  -- One case for each operation: regions are made for the invocation that it is addressed to.
  have foreign {about : InvocationId} (different : id ≠ about) {region : Region}
      (same : region.invocation = about) : region.isOf id = false := by
    rw [Region.isOf, same]
    exact beq_eq_false_iff_ne.mpr (Ne.symm different)
  cases operation with
  | begin invocation => rw [perform_begin]
  | pushRow about row wraps =>
    have different : id ≠ about := fun same => elsewhere (same ▸ rfl)
    cases present : tracker.running? about with
    | none => rw [perform_gone rfl present]
    | some running =>
      rw [perform_pushRow present]
      have frame : Slot.AllFrame (fun region => region.isOf id = false) about running.slots
          tracker.table ((running.push about tracker.limits tracker.table row wraps).1.slots,
            (running.push about tracker.limits tracker.table row wraps).2) :=
        Running.push_frames fun _ _ slot _ region creates => foreign different creates.invocation
      exact frame.table
  | finish about exitCode totalRows =>
    have different : id ≠ about := fun same => elsewhere (same ▸ rfl)
    cases present : tracker.running? about with
    | none => rw [perform_gone rfl present]
    | some running =>
      rw [perform_finish present]
      refine (Running.complete_frames fun line _ slot _ region creates => ?_).1
      exact foreign different creates.invocation
  | abandon about =>
    cases present : tracker.running? about with
    | none => rw [perform_gone rfl present]
    | some running =>
      rw [perform_abandon present]
      exact .refl _ tracker.table
  | evict region => cases keeps
  | evictInvocation about => cases keeps

/-- Stored regions mark the output of invocations that were begun. -/
theorem course_region_begun {start : Tracker} (idle : ∀ id, start.running? id = none)
    (empty : start.table = {}) (operations : List Operation) :
    ∀ region ∈ (start.course operations).tracker.table.regions,
      region.invocation.number < (start.course operations).tracker.nextId := by
  -- A region was made in some event of an invocation, which had begun before.
  intro region member
  have bounded : start.Bounded := fun id running present => by rw [idle] at present; cases present
  obtain ⟨_, _, before, invocation, between, operation, after, split, created⟩ :=
    (course_regions idle empty operations).2 region member
  have issued := course_issued (course_settled bounded before).1 invocation
    (between ++ operation :: after)
  rw [← (course_append start before _).1, ← split] at issued
  rw [created.invocation]
  exact issued

/-- An invocation among others goes as it goes on a tracker of its own. -/
structure Solo (tracker : Tracker) (host : InvocationId) (pairing : Pairing) (solo : Tracker) :
    Prop where
  /-- The limits are the same. -/
  limits : tracker.limits = solo.limits
  /-- Running invocations were issued. -/
  bounded : tracker.Bounded
  /-- The invocation was begun among others. -/
  issued : tracker.wasIssued host = true
  /-- The invocation was begun by itself. -/
  begun : solo.wasIssued .first = true
  /-- The invocation runs among others exactly if it runs by itself. -/
  running : Option.Rel ((Coupling.numbers host).Runnings pairing) (tracker.running? host)
    (solo.running? .first)
  /-- Its regions are those of the tracker of its own. -/
  table : (Coupling.numbers host).Tables pairing tracker.limits (Region.isOf host) tracker.table
    solo.table

/-- An operation leads to what the same operation leads to by itself. -/
structure SoloResult (host : InvocationId) (pairing : Pairing)
    (result other : Response × Tracker × Journal) : Prop where
  /-- The response is the same. -/
  response : result.1.readdressed .first = other.1
  /-- The invocation goes on as it does by itself. -/
  tracker : result.2.1.Solo host pairing other.2.1
  /-- The requests are the same. -/
  requests : Journal.requests result.2.2 host = Journal.requests other.2.2 .first

variable {tracker solo : Tracker} {host : InvocationId} {pairing later : Pairing}

/-- What was issued stays issued. -/
theorem wasIssued_perform {id : InvocationId} (issued : tracker.wasIssued id = true)
    (operation : Operation) : (tracker.perform operation).2.1.wasIssued id = true := by
  -- Numbers of invocations only go up.
  have grown := (tracker.perform_settled operation).nextId
  simp only [wasIssued, Bool.and_eq_true, decide_eq_true_eq] at issued ⊢
  omega

/-- What operations lead to is the same if running invocation, regions and requests agree. -/
theorem Solo.onward (same : tracker.Solo host pairing solo) {operation otherOperation : Operation}
    {result other : Response × Tracker × Journal} (done : tracker.perform operation = result)
    (otherDone : solo.perform otherOperation = other)
    (response : result.1.readdressed .first = other.1)
    (running : Option.Rel ((Coupling.numbers host).Runnings later) (result.2.1.running? host)
      (other.2.1.running? .first))
    (table : (Coupling.numbers host).Tables later tracker.limits (Region.isOf host)
      result.2.1.table other.2.1.table)
    (requests : Journal.requests result.2.2 host = Journal.requests other.2.2 .first) :
    SoloResult host later (tracker.perform operation) (solo.perform otherOperation) := by
  -- Limits and numbers of the two trackers are as before, and the rest is given.
  subst done otherDone
  have limits := (tracker.perform_settled operation).limits
  have otherLimits := (solo.perform_settled otherOperation).limits
  refine ⟨response, ⟨?_, same.bounded.perform operation, wasIssued_perform same.issued operation,
    wasIssued_perform same.begun otherOperation, running, ?_⟩, requests⟩
  · rw [limits, otherLimits, same.limits]
  · rw [limits]
    exact table

/-- Both sides refuse to work on an invocation that has ended. -/
theorem Solo.gone (same : tracker.Solo host pairing solo) {operation : Operation}
    (target : operation.target? = some host) (ended : tracker.running? host = none)
    (otherEnded : solo.running? .first = none) :
    SoloResult host pairing (tracker.perform operation)
      (solo.perform (operation.readdressed .first)) := by
  -- Both refuse the operation in the same words, since both have begun the invocation.
  have otherTarget : (operation.readdressed .first).target? = some .first := by
    cases operation <;> first | rfl | cases target
  rw [perform_gone target ended, perform_gone otherTarget otherEnded]
  refine ⟨?_, same, rfl⟩
  simp only [refusal, same.issued, same.begun, if_true, Response.readdressed,
    TrackerError.readdressed]

section Present

variable {running other : Running}

/-- A row leads to what it leads to by itself. -/
theorem Solo.pushRow (same : tracker.Solo host pairing solo)
    (present : tracker.running? host = some running)
    (otherPresent : solo.running? .first = some other)
    (equal : (Coupling.numbers host).Runnings pairing running other) (row : String) (wraps : Bool) :
    ∃ later, pairing.Within later ∧ SoloResult host later
      (tracker.perform (.pushRow host row wraps)) (solo.perform (.pushRow .first row wraps)) := by
  -- Hooks may reserve and create here, so new pairs of numbers come in.
  obtain ⟨later, within, pushed⟩ := equal.push same.table row wraps
  have otherDone := perform_pushRow otherPresent row wraps
  rw [← same.limits] at otherDone
  refine ⟨later, within, same.onward (perform_pushRow present row wraps) otherDone rfl ?_
    pushed.table pushed.requests⟩
  dsimp only
  rw [running?_update_self present, running?_update_self otherPresent]
  exact .some pushed.running

/-- Finishing leads to what it leads to by itself. -/
theorem Solo.finish (same : tracker.Solo host pairing solo)
    (present : tracker.running? host = some running)
    (otherPresent : solo.running? .first = some other)
    (equal : (Coupling.numbers host).Runnings pairing running other) (exitCode : Int)
    (totalRows : Nat) :
    ∃ later, pairing.Within later ∧ SoloResult host later
      (tracker.perform (.finish host exitCode totalRows))
      (solo.perform (.finish .first exitCode totalRows)) := by
  -- The invocation is completed on both sides and then released.
  obtain ⟨later, within, tables, requests⟩ := equal.complete same.table exitCode totalRows
  have otherDone := perform_finish otherPresent exitCode totalRows
  rw [← same.limits] at otherDone
  have gone : (tracker.release host).running? host = none := running?_release_self
  have otherGone : (solo.release .first).running? .first = none := running?_release_self
  exact ⟨later, within, same.onward (perform_finish present exitCode totalRows) otherDone rfl
    (gone.symm ▸ otherGone.symm ▸ .none) tables requests⟩

/-- Abandoning leads to what it leads to by itself. -/
theorem Solo.abandon (same : tracker.Solo host pairing solo)
    (present : tracker.running? host = some running)
    (otherPresent : solo.running? .first = some other) :
    SoloResult host pairing (tracker.perform (.abandon host)) (solo.perform (.abandon .first)) := by
  -- The invocation is released on both sides, without another call.
  refine same.onward (perform_abandon present) (perform_abandon otherPresent) rfl ?_ same.table rfl
  dsimp only
  rw [running?_release_self, running?_release_self]
  exact .none

end Present

/-- An operation on the invocation leads to what it leads to by itself. -/
theorem Solo.targeted (same : tracker.Solo host pairing solo) {operation : Operation}
    (target : operation.target? = some host) :
    ∃ later, pairing.Within later ∧ SoloResult host later (tracker.perform operation)
      (solo.perform (operation.readdressed .first)) := by
  -- Either both still run the invocation, or neither does and both refuse.
  have related := same.running
  generalize present : tracker.running? host = runs, otherPresent : solo.running? .first = others
    at related
  cases related with
  | none => exact ⟨pairing, .refl pairing, same.gone target present otherPresent⟩
  | some equal =>
    cases operation with
    | pushRow id row wraps =>
      cases target
      exact same.pushRow present otherPresent equal row wraps
    | finish id exitCode totalRows =>
      cases target
      exact same.finish present otherPresent equal exitCode totalRows
    | abandon id =>
      cases target
      exact ⟨pairing, .refl pairing, same.abandon present otherPresent⟩
    | begin invocation => cases target
    | evict id => cases target
    | evictInvocation id => cases target

/-- An operation that is about another invocation makes no difference to the invocation. -/
theorem Solo.elsewhere (same : tracker.Solo host pairing solo) {operation : Operation}
    (keeps : operation.evicts = false) (elsewhere : tracker.addressee? operation ≠ some host) :
    (tracker.perform operation).2.1.Solo host pairing solo := by
  -- Other invocations change neither the slots of this one nor its regions.
  have limits := (tracker.perform_settled operation).limits
  refine ⟨limits.trans same.limits, same.bounded.perform operation,
    wasIssued_perform same.issued operation, same.begun, ?_, ?_⟩
  · rw [running?_perform_elsewhere same.bounded elsewhere]
    exact same.running
  · rw [limits]
    exact same.table.grows (grows_elsewhere keeps elsewhere)

/-- Slots of matchers that are coupled with themselves are so, too. -/
theorem slots_attached {deferBuffered : Bool} {id : InvocationId} {invocation : Invocation}
    {attachments : List Attachment}
    (same : ∀ attachment ∈ attachments,
      (Coupling.numbers host).Matchers {} attachment.matcher attachment.matcher) :
    ∀ slot ∈ (attachAll deferBuffered id invocation attachments).1,
      (Coupling.numbers host).Slots {} slot slot := by
  -- A slot is seated as it is, or after both have started alike.
  intro slot member
  obtain ⟨attachment, present, seated⟩ := mem_attachAll member
  have own := same attachment present
  rcases seat_eq_some seated with rfl | ⟨-, rfl⟩
  · exact ⟨rfl, rfl, rfl, own⟩
  · exact ⟨rfl, rfl, rfl, (own.start rfl).1⟩

/-- The operations on an invocation lead to what they lead to by themselves. -/
theorem Solo.course (same : tracker.Solo host pairing solo) {operations : List Operation}
    (keeps : ∀ operation ∈ operations, operation.evicts = false) :
    ∃ later, pairing.Within later ∧
      (tracker.course operations).tracker.Solo host later
        (solo.course (apart host operations)).tracker ∧
      (tracker.answers host operations).map (·.readdressed .first) =
        (solo.course (apart host operations)).responses ∧
      Journal.requests (tracker.course operations).journal host =
        Journal.requests (solo.course (apart host operations)).journal .first := by
  -- What is about other invocations is done on one side only.
  induction operations generalizing tracker solo pairing with
  | nil => exact ⟨pairing, .refl pairing, same, rfl, rfl⟩
  | cons operation rest ih =>
    have kept := keeps operation List.mem_cons_self
    have onward := fun other member => keeps other (List.mem_cons_of_mem operation member)
    have issued : host.number < tracker.nextId := by
      have known := same.issued
      simp only [wasIssued, Bool.and_eq_true, decide_eq_true_eq] at known
      exact known.2
    by_cases target : operation.target? = some host
    · obtain ⟨middle, within, result⟩ := same.targeted target
      obtain ⟨later, beyond, reached, answered, asked⟩ := ih result.tracker onward
      have addressed : tracker.addressee? operation = some host := by
        rcases tracker.begins_or_targets operation with ⟨invocation, rfl⟩ | same
        · cases target
        · exact same.trans target
      have split : apart host (operation :: rest) =
          operation.readdressed .first :: apart host rest := by
        simp [apart, target]
      rw [split, course_cons, course_cons]
      refine ⟨later, within.trans beyond, reached, ?_, ?_⟩
      · simp only [answers, addressed, if_true, List.singleton_append, List.map_cons, answered,
          result.response]
      · simp only [Journal.requests_append, asked, result.requests]
    · have elsewhere := addressee?_ne issued target
      obtain ⟨later, within, reached, answered, asked⟩ := ih (same.elsewhere kept elsewhere) onward
      have split : apart host (operation :: rest) = apart host rest := by simp [apart, target]
      rw [split, course_cons]
      refine ⟨later, within, reached, ?_, ?_⟩
      · simp only [answers, if_neg elsewhere, List.nil_append, answered]
      · have quiet := Journal.requests_of_callsOf (calls_perform_elsewhere elsewhere)
        simp only [Journal.requests_append, quiet, List.nil_append, asked]

end Tracker

end Annotator

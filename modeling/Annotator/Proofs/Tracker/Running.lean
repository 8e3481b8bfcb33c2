import Annotator.Proofs.Tracker.Attach
import Annotator.Proofs.Tracker.Course

/-! Every operation works on one invocation at most and leaves all other ones alone. -/

namespace Annotator

namespace Operation

/-- The invocation that an operation works on, once it was begun. -/
def target? : Operation → Option InvocationId
  -- Evictions work on regions, and beginning works on no invocation begun before.
  | .pushRow id _ _ | .finish id _ _ | .abandon id => some id
  | .begin _ | .evict _ | .evictInvocation _ => none

end Operation

namespace Tracker

variable {tracker : Tracker} {id : InvocationId} {running : Running}

/-- The number that the next invocation will be issued. -/
def upcoming (tracker : Tracker) : InvocationId :=
  -- Numbers are issued in sequence.
  ⟨tracker.nextId⟩

/-- A tracker is bounded when every running invocation was issued. -/
def Bounded (tracker : Tracker) : Prop :=
  -- The next number is above all that were issued.
  ∀ id running, tracker.running? id = some running → id.number < tracker.nextId

/-- A running invocation that is updated is found in its new state. -/
theorem running?_update_self {old : Running} (present : tracker.running? id = some old)
    (running : Running) (table : RegionTable) :
    (tracker.update id running table).running? id = some running := by
  -- The first entry of the invocation is the one that is looked up.
  unfold running? at present ⊢
  unfold update
  induction entries : tracker.running generalizing tracker with
  | nil => simp [entries] at present
  | cons entry rest ih =>
    by_cases same : entry.1 = id
    · simp [same]
    · simp only [entries, List.find?_cons, beq_eq_false_iff_ne.mpr same] at present
      simpa [same] using @ih { tracker with running := rest } present rfl

/-- Updating an invocation does not change what is found of another one. -/
theorem running?_update_of_ne {other : InvocationId} (different : other ≠ id) (running : Running)
    (table : RegionTable) :
    (tracker.update id running table).running? other = tracker.running? other := by
  -- Induction on the entries.
  unfold running? update
  dsimp only
  induction tracker.running with
  | nil => rfl
  | cons entry rest ih =>
    rw [List.map_cons, List.find?_cons, List.find?_cons]
    by_cases same : entry.1 = id
    · -- An entry of the updated invocation is none of the other one before and after.
      have missed : (id == other) = false := beq_eq_false_iff_ne.mpr (Ne.symm different)
      simp only [same, beq_self_eq_true, if_true, missed]
      exact ih
    · have kept : (entry.1 == id) = false := beq_eq_false_iff_ne.mpr same
      simp only [kept, Bool.false_eq_true, if_false]
      cases entry.1 == other with
      | true => rfl
      | false => exact ih

/-- A released invocation is not found any more. -/
theorem running?_release_self : (tracker.release id).running? id = none := by
  -- The pair is filtered out.
  simp [running?, release]

/-- Releasing an invocation does not change what is found of another one. -/
theorem running?_release_of_ne {other : InvocationId} (different : other ≠ id) :
    (tracker.release id).running? other = tracker.running? other := by
  -- An entry that is looked for passes the filter.
  unfold running? release
  dsimp only
  rw [List.find?_filter]
  congr 2
  funext entry
  by_cases hit : entry.1 = other
  · simp [hit, different]
  · simp [hit]

/-- Beginning an invocation adds it behind the running ones. -/
theorem perform_begin (invocation : Invocation) :
    tracker.perform (.begin invocation) =
      let resolved := tracker.registry.resolve tracker.upcoming invocation
      let attached :=
        attachAll tracker.deferBuffered tracker.upcoming invocation resolved.1
      (.issued tracker.upcoming,
        { tracker with
          nextId := tracker.nextId + 1
          running := tracker.running ++ [(tracker.upcoming, { invocation, slots := attached.1 })] },
        resolved.2 ++ attached.2) := by
  -- This is how an invocation begins.
  simp only [perform, begin, upcoming]

/-- A new invocation is found as it was begun, and all other ones as before. -/
theorem running?_perform_begin (bounded : tracker.Bounded) (invocation : Invocation)
    (id : InvocationId) :
    (tracker.perform (.begin invocation)).2.1.running? id =
      if id = tracker.upcoming then
        some { invocation, slots := (attachAll tracker.deferBuffered tracker.upcoming invocation
          (tracker.registry.resolve tracker.upcoming invocation).1).1 }
      else tracker.running? id := by
  -- The new invocation stands behind those that are running.
  rw [perform_begin]
  unfold running?
  dsimp only
  rw [List.find?_append]
  by_cases same : id = tracker.upcoming
  · -- No invocation ran under the number that is issued.
    have absent : tracker.running.find? (·.1 == id) = none := by
      cases found : tracker.running.find? (·.1 == id) with
      | none => rfl
      | some entry =>
        have below := bounded id entry.2 (by rw [running?, found]; rfl)
        rw [same] at below
        exact absurd below (Nat.lt_irrefl _)
    rw [absent, if_pos same]
    subst same
    simp [upcoming]
  · have other : (tracker.upcoming == id) = false :=
      beq_eq_false_iff_ne.mpr (Ne.symm same)
    simp [same, other]

/-- All running invocations have a property. -/
def AllRunning (tracker : Tracker) (kept : Running → Prop) : Prop :=
  -- What has ended need not have it.
  ∀ id running, tracker.running? id = some running → kept running

section AllRunning

variable {kept : Running → Prop}

/-- All running invocations have a property still when a new one has it. -/
theorem AllRunning.begin (all : tracker.AllRunning kept) (bounded : tracker.Bounded)
    {invocation : Invocation}
    (begun : kept { invocation, slots := (attachAll tracker.deferBuffered tracker.upcoming
      invocation (tracker.registry.resolve tracker.upcoming invocation).1).1 }) :
    (tracker.perform (.begin invocation)).2.1.AllRunning kept := by
  -- Only what has begun is new.
  intro id running present
  rw [running?_perform_begin bounded] at present
  split at present
  · cases present
    exact begun
  · exact all id running present

/-- All running invocations have a property still when one of them moved on with it. -/
theorem AllRunning.update (all : tracker.AllRunning kept) {old running : Running}
    (present : tracker.running? id = some old) (moved : kept running) (table : RegionTable) :
    (tracker.update id running table).AllRunning kept := by
  -- Only what was updated is new.
  intro other found looked
  by_cases same : other = id
  · subst same
    rw [running?_update_self present] at looked
    cases looked
    exact moved
  · rw [running?_update_of_ne same] at looked
    exact all other found looked

/-- All running invocations have a property still when one of them is released. -/
theorem AllRunning.release (all : tracker.AllRunning kept) (id : InvocationId) :
    (tracker.release id).AllRunning kept := by
  -- What is left was there before.
  intro other running present
  by_cases same : other = id
  · subst same
    rw [running?_release_self] at present
    cases present
  · rw [running?_release_of_ne same] at present
    exact all other running present

end AllRunning

/-- Pushing a row onto a running invocation updates it. -/
theorem perform_pushRow (present : tracker.running? id = some running) (row : String)
    (wraps : Bool) :
    tracker.perform (.pushRow id row wraps) =
      let pushed := running.push id tracker.limits tracker.table row wraps
      (.accepted, tracker.update id pushed.1 pushed.2.1, pushed.2.2) := by
  -- This is how a row is pushed to what runs.
  simp [perform, pushRow, present]

/-- Finishing a running invocation completes and releases it. -/
theorem perform_finish (present : tracker.running? id = some running) (exitCode : Int)
    (totalRows : Nat) :
    tracker.perform (.finish id exitCode totalRows) =
      let completed := running.complete id tracker.limits tracker.table exitCode totalRows
      (.accepted, { tracker.release id with table := completed.1 }, completed.2) := by
  -- This is how what runs is finished.
  simp [perform, finish, present]

/-- Abandoning a running invocation releases it. -/
theorem perform_abandon (present : tracker.running? id = some running) :
    tracker.perform (.abandon id) = (.accepted, tracker.release id, []) := by
  -- This is how what runs is abandoned.
  simp [perform, abandon, present]

/-- Work on an invocation that does not run is refused and changes nothing. -/
theorem perform_gone {operation : Operation} (targeted : operation.target? = some id)
    (gone : tracker.running? id = none) :
    tracker.perform operation = (.refused (tracker.refusal id), tracker, []) := by
  -- Three operations are addressed to an invocation, and each of them looks it up first.
  cases operation with
  | pushRow other row wraps =>
    cases targeted
    simp [perform, pushRow, gone]
  | finish other exitCode totalRows =>
    cases targeted
    simp [perform, finish, gone]
  | abandon other =>
    cases targeted
    simp [perform, abandon, gone]
  | begin invocation => cases targeted
  | evict region => cases targeted
  | evictInvocation other => cases targeted

/-- An operation keeps the registry, the scheduling and the limits, and takes back no number. -/
structure Settled (tracker later : Tracker) : Prop where
  /-- The registry stays as it is. -/
  registry : later.registry = tracker.registry
  /-- The scheduling stays as it is. -/
  deferBuffered : later.deferBuffered = tracker.deferBuffered
  /-- The limits stay as they are. -/
  limits : later.limits = tracker.limits
  /-- Numbers are only issued. -/
  nextId : tracker.nextId ≤ later.nextId

/-- What two stretches of operations keep is kept over both of them. -/
theorem Settled.trans {first second third : Tracker} (early : first.Settled second)
    (late : second.Settled third) : first.Settled third :=
  -- Part by part.
  ⟨late.registry.trans early.registry, late.deferBuffered.trans early.deferBuffered,
    late.limits.trans early.limits, Nat.le_trans early.nextId late.nextId⟩

/-- Every operation keeps what is settled. -/
theorem perform_settled (tracker : Tracker) (operation : Operation) :
    tracker.Settled (tracker.perform operation).2.1 := by
  -- Refused work leaves the tracker as it is.
  have same : tracker.Settled tracker := ⟨rfl, rfl, rfl, Nat.le_refl _⟩
  cases operation with
  | begin invocation => rw [perform_begin]; exact ⟨rfl, rfl, rfl, Nat.le_succ _⟩
  | pushRow id row wraps =>
    cases present : tracker.running? id with
    | none => rw [perform_gone rfl present]; exact same
    | some running => rw [perform_pushRow present]; exact ⟨rfl, rfl, rfl, Nat.le_refl _⟩
  | finish id exitCode totalRows =>
    cases present : tracker.running? id with
    | none => rw [perform_gone rfl present]; exact same
    | some running => rw [perform_finish present]; exact ⟨rfl, rfl, rfl, Nat.le_refl _⟩
  | abandon id =>
    cases present : tracker.running? id with
    | none => rw [perform_gone rfl present]; exact same
    | some running => rw [perform_abandon present]; exact ⟨rfl, rfl, rfl, Nat.le_refl _⟩
  | evict id => exact ⟨rfl, rfl, rfl, Nat.le_refl _⟩
  | evictInvocation id => exact ⟨rfl, rfl, rfl, Nat.le_refl _⟩

/-- The invocation that an operation is about, which beginning is about to issue. -/
def addressee? (tracker : Tracker) : Operation → Option InvocationId
  -- All other operations name their invocation.
  | .begin _ => some tracker.upcoming
  | operation => operation.target?

/-- An operation begins an invocation or is about the one that it works on. -/
theorem begins_or_targets (tracker : Tracker) (operation : Operation) :
    (∃ invocation, operation = .begin invocation) ∨
      tracker.addressee? operation = operation.target? := by
  -- Only a beginning is about a number that it is not addressed to.
  cases operation with
  | begin invocation => exact .inl ⟨invocation, rfl⟩
  | _ => exact .inr rfl

/-- An operation that does not work on an invocation begun before is not about it. -/
theorem addressee?_ne {operation : Operation} (issued : id.number < tracker.nextId)
    (elsewhere : operation.target? ≠ some id) : tracker.addressee? operation ≠ some id := by
  -- What an operation is about is the number it names or, at a beginning, the one it issues.
  rcases tracker.begins_or_targets operation with ⟨invocation, rfl⟩ | same
  · -- The number was issued before, so it is not issued now.
    intro addressed
    cases addressed
    exact Nat.lt_irrefl _ issued
  · rw [same]
    exact elsewhere

/-- An operation finds an invocation that it is not about as it was. -/
theorem running?_perform_elsewhere {operation : Operation} (bounded : tracker.Bounded)
    (elsewhere : tracker.addressee? operation ≠ some id) :
    (tracker.perform operation).2.1.running? id = tracker.running? id := by
  -- One case for each operation, none of which touches what others run.
  cases operation with
  | begin invocation =>
    refine (running?_perform_begin bounded invocation id).trans (if_neg ?_)
    exact fun same => elsewhere (same ▸ rfl)
  | pushRow other row wraps =>
    have different : id ≠ other := fun same => elsewhere (same ▸ rfl)
    cases present : tracker.running? other with
    | none => rw [perform_gone rfl present]
    | some running => rw [perform_pushRow present]; exact running?_update_of_ne different _ _
  | finish other exitCode totalRows =>
    have different : id ≠ other := fun same => elsewhere (same ▸ rfl)
    cases present : tracker.running? other with
    | none => rw [perform_gone rfl present]
    | some running => rw [perform_finish present]; exact running?_release_of_ne different
  | abandon other =>
    have different : id ≠ other := fun same => elsewhere (same ▸ rfl)
    cases present : tracker.running? other with
    | none => rw [perform_gone rfl present]
    | some running => rw [perform_abandon present]; exact running?_release_of_ne different
  | evict region => rfl
  | evictInvocation other => rfl

/-- An operation calls no matcher of an invocation that it is not about. -/
theorem calls_perform_elsewhere {operation : Operation}
    (elsewhere : tracker.addressee? operation ≠ some id) (matcher : String) :
    Journal.callsOf (tracker.perform operation).2.2 matcher id = [] := by
  -- One case for each operation: all its calls are for the invocation it is about.
  cases operation with
  | begin invocation =>
    -- Factories are consulted and matchers are started for the new invocation alone.
    have different : id ≠ tracker.upcoming := fun same => elsewhere (same ▸ rfl)
    rw [perform_begin]
    dsimp only
    rw [Journal.callsOf_append, attachAll_calls _ _ _ (.inr different),
      (Registry.resolve_onlyCalls _ _ _).callsOf_eq_nil fun call named => different named.2.1,
      List.append_nil]
  | pushRow other row wraps =>
    have different : id ≠ other := fun same => elsewhere (same ▸ rfl)
    cases present : tracker.running? other with
    | none => rw [perform_gone rfl present]; rfl
    | some running =>
      rw [perform_pushRow present]
      exact running.push_calls row wraps matcher id (.inr different)
  | finish other exitCode totalRows =>
    have different : id ≠ other := fun same => elsewhere (same ▸ rfl)
    cases present : tracker.running? other with
    | none => rw [perform_gone rfl present]; rfl
    | some running =>
      rw [perform_finish present]
      exact running.complete_calls exitCode totalRows matcher id (.inr different)
  | abandon other =>
    cases present : tracker.running? other with
    | none => rw [perform_gone rfl present]; rfl
    | some running => rw [perform_abandon present]; rfl
  | evict region => rfl
  | evictInvocation other => rfl

/-- Operations keep a tracker bounded. -/
theorem Bounded.perform (bounded : tracker.Bounded) (operation : Operation) :
    (tracker.perform operation).2.1.Bounded := by
  -- An invocation that runs was running before or is the one that begins.
  intro id running present
  by_cases addressed : tracker.addressee? operation = some id
  · rcases tracker.begins_or_targets operation with ⟨invocation, rfl⟩ | targeted
    · cases addressed
      rw [perform_begin]
      exact Nat.lt_succ_self _
    · -- Work is done only on invocations that run, and their numbers were issued before.
      cases before : tracker.running? id with
      | some old => exact Nat.lt_of_lt_of_le (bounded id old before) (perform_settled _ _).nextId
      | none =>
        rw [perform_gone (targeted.symm.trans addressed) before, before] at present
        cases present
  · rw [running?_perform_elsewhere bounded addressed] at present
    exact Nat.lt_of_lt_of_le (bounded id running present) (perform_settled _ _).nextId

section Related

variable {other : Tracker} {related : Running → Running → Prop}

/-- An invocation that is related on two sides runs on both of them or on neither. -/
theorem running_cases (same : Option.Rel related (tracker.running? id) (other.running? id)) :
    (tracker.running? id = none ∧ other.running? id = none) ∨
      ∃ running otherRunning, tracker.running? id = some running ∧
        other.running? id = some otherRunning ∧ related running otherRunning := by
  -- There is one on both sides or on neither.
  generalize tracker.running? id = found, other.running? id = otherFound at same
  cases same with
  | none => exact .inl ⟨rfl, rfl⟩
  | some equal => exact .inr ⟨_, _, rfl, rfl, equal⟩

/--
Operations on two sides keep all invocations related if they do so for the one they are about.

All other invocations are left alone on both sides.
-/
theorem related_perform (bounded : tracker.Bounded) (otherBounded : other.Bounded)
    (same : ∀ id, Option.Rel related (tracker.running? id) (other.running? id))
    {operation otherOperation : Operation}
    (addressed : tracker.addressee? operation = other.addressee? otherOperation)
    (about : ∀ id, tracker.addressee? operation = some id →
      Option.Rel related ((tracker.perform operation).2.1.running? id)
        ((other.perform otherOperation).2.1.running? id)) (id : InvocationId) :
    Option.Rel related ((tracker.perform operation).2.1.running? id)
      ((other.perform otherOperation).2.1.running? id) := by
  -- Only the invocation that the operation is about may have changed.
  by_cases elsewhere : tracker.addressee? operation = some id
  · exact about id elsewhere
  · rw [running?_perform_elsewhere bounded elsewhere,
      running?_perform_elsewhere otherBounded (addressed ▸ elsewhere)]
    exact same id

/-- An invocation that is released on both sides runs on neither. -/
theorem related_release (id : InvocationId) :
    Option.Rel related ((tracker.release id).running? id) ((other.release id).running? id) := by
  -- Neither runs any more.
  rw [running?_release_self, running?_release_self]
  exact .none

end Related

end Tracker

end Annotator

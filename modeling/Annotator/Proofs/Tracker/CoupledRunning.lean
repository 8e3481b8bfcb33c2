import Annotator.Proofs.Hook.IgnoresIds
import Annotator.Proofs.Tracker.Coupling

/-! A running invocation does among others what it does by itself, slot by slot and row by row. -/

namespace Annotator

/-- A region is one of an invocation when it marks its output. -/
def Region.isOf (invocation : InvocationId) (region : Region) : Bool :=
  -- Regions of all invocations are kept in one table.
  region.invocation == invocation

namespace Coupling

/-- Steps on all slots leave what is coupled, after the same requests if they are in step. -/
structure AllSteps (coupling : Coupling) (pairing : Pairing) (limits : Limits)
    (own : Region → Bool) (result other : List Slot × RegionTable × Journal) : Prop where
  /-- The slots are coupled, one by one. -/
  slots : result.1.Forall₂ (coupling.Slots pairing) other.1
  /-- The tables are coupled. -/
  table : coupling.Tables pairing limits own result.2.1 other.2.1
  /-- The requests are the same. -/
  requests : coupling.inStep →
    Journal.requests result.2.2 coupling.host = Journal.requests other.2.2 .first

/-- Passing over coupled slots leaves what is coupled if each step does. -/
theorem AllSteps.each {coupling : Coupling} {pairing : Pairing} {limits : Limits}
    {own : Region → Bool} {step otherStep : Slot → RegionTable → Slot × RegionTable × Journal}
    {slots others : List Slot} (same : slots.Forall₂ (coupling.Slots pairing) others)
    {table otherTable : RegionTable}
    (tables : coupling.Tables pairing limits own table otherTable)
    (steps : ∀ {pairing : Pairing} {slot other : Slot} {table otherTable : RegionTable},
      coupling.Slots pairing slot other → coupling.Tables pairing limits own table otherTable →
        ∃ later, pairing.Within later ∧
          coupling.Steps later limits own (step slot table) (otherStep other otherTable)) :
    ∃ later, pairing.Within later ∧ coupling.AllSteps later limits own
      (Slot.each step slots table) (Slot.each otherStep others otherTable) := by
  -- Induction on the slots, as each step pairs more numbers and unpairs none.
  induction slots generalizing pairing others table otherTable with
  | nil =>
    cases same
    exact ⟨pairing, .refl pairing, .nil, tables, fun _ => rfl⟩
  | cons slot rest ih =>
    obtain ⟨_ | _⟩ | ⟨equal, same⟩ := same
    obtain ⟨middle, within, first⟩ := steps equal tables
    have onward := same.imp fun _ _ equal => equal.mono within
    obtain ⟨later, beyond, second⟩ := ih onward first.table
    refine ⟨later, within.trans beyond, .cons (first.slot.mono beyond) second.slots, second.table,
      fun step => ?_⟩
    simp only [Slot.each, Journal.requests_append, first.requests step, second.requests step]

/-- Two running invocations are coupled when they differ in nothing but their matchers' states. -/
structure Runnings (coupling : Coupling) (pairing : Pairing) (running other : Running) : Prop where
  /-- The invocations are the same. -/
  invocation : running.invocation = other.invocation
  /-- The slots are coupled, one by one. -/
  slots : running.slots.Forall₂ (coupling.Slots pairing) other.slots
  /-- The buffered rows are the same. -/
  buffer : running.buffer = other.buffer
  /-- The received rows are the same. -/
  rows : running.rows = other.rows
  /-- The retained lines are the same. -/
  lines : running.lines = other.lines

/-- An invocation that has just been begun is coupled with itself if its slots are. -/
theorem runnings_begun {coupling : Coupling} {slots : List Slot}
    (same : ∀ slot ∈ slots, coupling.Slots {} slot slot) (invocation : Invocation) :
    coupling.Runnings {} { invocation, slots } { invocation, slots } :=
  -- Nothing has been received on either side.
  ⟨rfl, List.forall₂_same.mpr same, rfl, rfl, rfl⟩

/-- Steps of running invocations leave what is coupled, after the same requests. -/
structure RunningSteps (coupling : Coupling) (pairing : Pairing) (limits : Limits)
    (own : Region → Bool) (result other : Running × RegionTable × Journal) : Prop where
  /-- The running invocations are coupled. -/
  running : coupling.Runnings pairing result.1 other.1
  /-- The tables are coupled. -/
  table : coupling.Tables pairing limits own result.2.1 other.2.1
  /-- The requests are the same. -/
  requests : Journal.requests result.2.2 coupling.host = Journal.requests other.2.2 .first

variable {host : InvocationId} {pairing : Pairing} {limits : Limits} {running other : Running}
  {table otherTable : RegionTable}

/-- Every matcher owns what it makes for the host. -/
theorem owns_host (name : String) : (numbers host).Owns (Region.isOf host) name :=
  -- What belongs to the host is told by its number.
  fun _ same _ => beq_iff_eq.mpr same

/-- Stages over the same rows are coupled. -/
theorem stages_host (limits : Limits) (rows : Array String) :
    (numbers host).Stages True { id := host, limits, rows } { id := .first, limits, rows } :=
  -- Both are at the same rows.
  ⟨rfl, rfl, rfl, fun _ => rfl⟩

/-- Delivering a line that may not have been completed leaves what is coupled. -/
theorem Runnings.deliverIfAny (same : (numbers host).Runnings pairing running other)
    (tables : (numbers host).Tables pairing limits (Region.isOf host) table otherTable)
    (given : Option LogicalLine) :
    ∃ later, pairing.Within later ∧ (numbers host).RunningSteps later limits (Region.isOf host)
      (running.deliverIfAny host limits table given)
      (other.deliverIfAny .first limits otherTable given) := by
  -- Without a line nothing happens, and with one all slots take it alike.
  cases given with
  | none => exact ⟨pairing, .refl pairing, same, tables, rfl⟩
  | some line =>
    obtain ⟨invocation, slots, buffer, rows, lines⟩ := running
    obtain ⟨otherInvocation, others, otherBuffer, otherRows, otherLines⟩ := other
    obtain ⟨rfl, slotsSame, rfl, rfl, rfl⟩ := same
    obtain ⟨later, within, passed⟩ := AllSteps.each slotsSame tables fun equal tables =>
      equal.deliver (stages_host limits rows) (owns_host _) tables line
    have waiting := Slot.any_waiting_congr (fun _ _ equal => equal.status) passed.slots
    refine ⟨later, within, ?_⟩
    rw [Running.deliverIfAny, Running.deliverIfAny, Running.deliver_eq, Running.deliver_eq]
    dsimp only
    exact ⟨⟨rfl, passed.slots, rfl, rfl, by dsimp only; rw [waiting]⟩, passed.table,
      passed.requests trivial⟩

/-- Pushing a row leaves what is coupled. -/
theorem Runnings.push (same : (numbers host).Runnings pairing running other)
    (tables : (numbers host).Tables pairing limits (Region.isOf host) table otherTable)
    (row : String) (wraps : Bool) :
    ∃ later, pairing.Within later ∧ (numbers host).RunningSteps later limits (Region.isOf host)
      (running.push host limits table row wraps)
      (other.push .first limits otherTable row wraps) := by
  -- The buffers take the row alike, so they complete the same line or none.
  let grown : Running := { running with
    buffer := (running.buffer.push row wraps).2
    rows := running.rows.push row }
  let otherGrown : Running := { other with
    buffer := (running.buffer.push row wraps).2
    rows := running.rows.push row }
  have equal : (numbers host).Runnings pairing grown otherGrown :=
    { same with buffer := rfl, rows := rfl }
  rw [Running.push_eq, Running.push_eq, ← same.buffer, ← same.rows]
  exact equal.deliverIfAny tables (running.buffer.push row wraps).1

/-- Completing leaves coupled tables after the same requests. -/
theorem Runnings.complete (same : (numbers host).Runnings pairing running other)
    (tables : (numbers host).Tables pairing limits (Region.isOf host) table otherTable)
    (exitCode : Int) (totalRows : Nat) :
    ∃ later, pairing.Within later ∧
      (numbers host).Tables later limits (Region.isOf host)
        (running.complete host limits table exitCode totalRows).1
        (other.complete .first limits otherTable exitCode totalRows).1 ∧
      Journal.requests (running.complete host limits table exitCode totalRows).2 host =
        Journal.requests (other.complete .first limits otherTable exitCode totalRows).2 .first := by
  -- The last line is the same on both sides, and is delivered first.
  let settled : Running := { running with buffer := running.buffer.flush.2 }
  let otherSettled : Running := { other with buffer := running.buffer.flush.2 }
  have equal : (numbers host).Runnings pairing settled otherSettled := { same with buffer := rfl }
  obtain ⟨middle, within, left⟩ := equal.deliverIfAny tables running.buffer.flush.1
  rw [Running.complete_eq, Running.complete_eq, ← same.buffer]
  dsimp only
  generalize Running.deliverIfAny host limits { running with buffer := running.buffer.flush.2 }
    table running.buffer.flush.1 = flushed at left ⊢
  generalize Running.deliverIfAny .first limits { other with buffer := running.buffer.flush.2 }
    otherTable running.buffer.flush.1 = otherFlushed at left ⊢
  rw [← left.running.rows, ← left.running.invocation, ← left.running.lines]
  -- Waiting matchers catch up here, on lines that are the same on both sides.
  let invocation := { flushed.1.invocation with exitCode := some exitCode }
  have starts : (numbers host).starts invocation invocation := rfl
  obtain ⟨later, beyond, passed⟩ := AllSteps.each left.running.slots left.table fun equal tables =>
    equal.complete (stages_host limits flushed.1.rows) (owns_host _) tables starts
      flushed.1.lines.toList totalRows
  refine ⟨later, within.trans beyond, passed.table, ?_⟩
  rw [Journal.requests_append, Journal.requests_append]
  exact congrArg₂ _ left.requests (passed.requests trivial)

end Coupling

end Annotator

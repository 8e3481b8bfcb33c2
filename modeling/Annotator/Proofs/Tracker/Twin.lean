import Annotator.Proofs.Hook.Alike
import Annotator.Proofs.Tracker.History

/-! In two running invocations that share a matcher, that matcher is called and works alike. -/

namespace Annotator

/-- The calls that a journal records for a matcher of an invocation, whatever came of them. -/
def Journal.requestsOf (journal : Journal) (matcher : String) (invocation : InvocationId) :
    List Call :=
  -- Verdicts may mention numbers.
  (journal.callsOf matcher invocation).map (·.1)

namespace Journal

/-- Requests are told one journal after the other. -/
theorem requestsOf_append (early late : Journal) (matcher : String) (invocation : InvocationId) :
    Journal.requestsOf (early ++ late) matcher invocation =
      Journal.requestsOf early matcher invocation ++
        Journal.requestsOf late matcher invocation := by
  -- The calls come one behind the other.
  rw [requestsOf, callsOf_append, List.map_append]
  rfl

/-- A hook call under a name is one request of that name. -/
theorem requestsOf_hookJournal (name : String) (id : InvocationId) (hook : String) (call : Call)
    (verdict : Verdict) (notes : List Note) :
    Journal.requestsOf (hookJournal name id hook call verdict notes) name id = [call] := by
  -- Of what a hook leaves, the call is the only one.
  rw [requestsOf, callsOf_hookJournal, if_pos ⟨rfl, rfl⟩]
  rfl

end Journal

section Decisions

variable {α : Type}

/-- Decisions that agree about a start leave the same status. -/
theorem SameDecision.afterStart {answer other : Except Fault Bool}
    (agree : SameDecision answer other) :
    SlotStatus.afterStart answer = SlotStatus.afterStart other := by
  -- Whatever went wrong, the slot has faulted.
  cases agree with
  | ok same => rw [same]
  | error _ => rfl

/-- Decisions that agree about a line leave the same status. -/
theorem SameDecision.afterLine {answer other : Except Fault Flow}
    (agree : SameDecision answer other) :
    SlotStatus.afterLine answer = SlotStatus.afterLine other := by
  -- Whatever went wrong, the slot has faulted.
  cases agree with
  | ok same => rw [same]
  | error _ => rfl

/-- Decisions that agree about the end leave the same status. -/
theorem SameDecision.afterFinish {answer other : Except Fault Unit}
    (agree : SameDecision answer other) (status : SlotStatus) :
    status.afterFinish answer = status.afterFinish other := by
  -- Whatever went wrong, the slot has faulted.
  cases agree with
  | ok same => rw [same]
  | error _ => rfl

end Decisions

namespace Pairing

/-- Two slots are the same up to numbers. -/
structure SameSlot (pairing : Pairing) (slot other : Slot) : Prop where
  /-- The names are the same. -/
  name : slot.name = other.name
  /-- The policies are the same. -/
  finishPolicy : slot.finishPolicy = other.finishPolicy
  /-- The slots have come equally far. -/
  status : slot.status = other.status
  /-- The matchers are the same. -/
  matcher : pairing.SameMatcher slot.matcher other.matcher

/-- Slots stay the same when more numbers are paired. -/
theorem SameSlot.mono {pairing later : Pairing} (within : pairing.Within later) {slot other : Slot}
    (same : pairing.SameSlot slot other) : later.SameSlot slot other :=
  -- Only the matchers refer to the pairing.
  ⟨same.name, same.finishPolicy, same.status, Matcher.same_mono within same.matcher⟩

end Pairing

namespace Slot

/-- Steps on two slots of a name leave the same slots and regions after the same requests. -/
structure SameStep (pairing : Pairing) (stage : Stage) (name : String)
    (result other : Slot × RegionTable × Journal) : Prop where
  /-- The slots are the same. -/
  slot : pairing.SameSlot result.1 other.1
  /-- The regions of the name are the same. -/
  table : pairing.SameTable stage.limits name result.2.1 other.2.1
  /-- The requests are the same. -/
  requests : Journal.requestsOf result.2.2 name stage.id =
    Journal.requestsOf other.2.2 name stage.id

variable {pairing later : Pairing} {stage : Stage} {name : String} {slot other : Slot}
  {table otherTable : RegionTable}

/-- Doing nothing on both sides leaves the same. -/
theorem SameStep.refl (same : pairing.SameSlot slot other)
    (tables : pairing.SameTable stage.limits name table otherTable) :
    SameStep pairing stage name (slot, table, []) (other, otherTable, []) :=
  -- Nobody was called on either side.
  ⟨same, tables, rfl⟩

/-- A step that follows one on either side makes its requests behind those of the first. -/
theorem SameStep.trans {first second otherFirst otherSecond : Slot × RegionTable × Journal}
    (early : SameStep pairing stage name first otherFirst)
    (late : SameStep later stage name second otherSecond) :
    SameStep later stage name (second.1, second.2.1, first.2.2 ++ second.2.2)
      (otherSecond.1, otherSecond.2.1, otherFirst.2.2 ++ otherSecond.2.2) := by
  -- The calls of the second step come behind those of the first.
  refine ⟨late.slot, late.table, ?_⟩
  rw [Journal.requestsOf_append, Journal.requestsOf_append, early.requests, late.requests]

/-- Delivering a line to slots that are the same leaves the same. -/
theorem deliver_same (same : pairing.SameSlot slot other) (named : slot.name = name)
    (tables : pairing.SameTable stage.limits name table otherTable) (line : LogicalLine) :
    ∃ later, pairing.Within later ∧ SameStep later stage name
      (slot.deliver stage table line) (other.deliver stage otherTable line) := by
  -- Both slots are active or neither is.
  by_cases active : slot.status = .active
  · rw [deliver_of_active active, deliver_of_active (same.status ▸ active), ← same.name, named]
    obtain ⟨later, within, handled⟩ :=
      Matcher.takeLine_same same.matcher (stage.scene name (some line)) tables line
    refine ⟨later, within, ⟨rfl, same.finishPolicy, handled.answer.afterLine, handled.matcher⟩,
      handled.table, ?_⟩
    rw [Journal.requestsOf_hookJournal, Journal.requestsOf_hookJournal]
  · rw [deliver_of_not_active active, deliver_of_not_active (same.status ▸ active)]
    exact ⟨pairing, .refl pairing, .refl same tables⟩

/-- Delivering lines to slots that are the same leaves the same. -/
theorem deliverLines_same (same : pairing.SameSlot slot other) (named : slot.name = name)
    (tables : pairing.SameTable stage.limits name table otherTable) (lines : List LogicalLine) :
    ∃ later, pairing.Within later ∧ SameStep later stage name
      (slot.deliverLines stage table lines) (other.deliverLines stage otherTable lines) := by
  -- Induction on the lines, as each pairs more numbers and unpairs none.
  induction lines generalizing pairing slot other table otherTable with
  | nil => exact ⟨pairing, .refl pairing, .refl same tables⟩
  | cons line rest ih =>
    obtain ⟨middle, within, first⟩ := deliver_same same named tables line
    have kept := (deliver_keeps stage slot table line).1
    obtain ⟨later, beyond, second⟩ := ih first.slot (kept.trans named) first.table
    exact ⟨later, within.trans beyond, first.trans second⟩

/-- Catching up on lines that are the same wherever a slot waits leaves the same. -/
theorem catchUp_same (same : pairing.SameSlot slot other) (named : slot.name = name)
    (tables : pairing.SameTable stage.limits name table otherTable) (invocation : Invocation)
    {lines others : List LogicalLine} (retained : slot.status = .waiting → lines = others) :
    ∃ later, pairing.Within later ∧ SameStep later stage name
      (slot.catchUp stage invocation table lines)
      (other.catchUp stage invocation otherTable others) := by
  -- Either both slots wait or neither does.
  by_cases waiting : slot.status = .waiting
  · obtain rfl := retained waiting
    rw [catchUp_of_waiting waiting, catchUp_of_waiting (same.status ▸ waiting)]
    obtain ⟨matchers, answer⟩ := Matcher.start_same same.matcher invocation
    -- Starting touches no region, and what follows is an ordinary delivery.
    have started : SameStep pairing stage name
        ({ slot with
            matcher := (slot.matcher.start invocation).matcher
            status := .afterStart (slot.matcher.start invocation).answer }, table,
          hookJournal slot.name stage.id "on_start" (.start invocation)
            (.ofWish (slot.matcher.start invocation).answer)
            (slot.matcher.start invocation).notes)
        ({ other with
            matcher := (other.matcher.start invocation).matcher
            status := .afterStart (other.matcher.start invocation).answer }, otherTable,
          hookJournal other.name stage.id "on_start" (.start invocation)
            (.ofWish (other.matcher.start invocation).answer)
            (other.matcher.start invocation).notes) := by
      refine ⟨⟨same.name, same.finishPolicy, answer.afterStart, matchers⟩, tables, ?_⟩
      rw [← same.name, named, Journal.requestsOf_hookJournal, Journal.requestsOf_hookJournal]
    obtain ⟨later, within, taken⟩ := deliverLines_same started.slot named tables lines
    exact ⟨later, within, started.trans taken⟩
  · rw [catchUp_of_not_waiting waiting, catchUp_of_not_waiting (same.status ▸ waiting)]
    exact ⟨pairing, .refl pairing, .refl same tables⟩

/-- Finishing slots that are the same leaves the same. -/
theorem finish_same (same : pairing.SameSlot slot other) (named : slot.name = name)
    (tables : pairing.SameTable stage.limits name table otherTable) (totalRows : Nat) :
    ∃ later, pairing.Within later ∧ SameStep later stage name
      (slot.finish stage table totalRows) (other.finish stage otherTable totalRows) := by
  -- Either both slots want it or neither does.
  have wants := wantsFinish_congr same.status same.finishPolicy
  cases wanted : slot.wantsFinish with
  | false =>
    rw [finish_of_not_wanting wanted, finish_of_not_wanting (wants.symm.trans wanted)]
    exact ⟨pairing, .refl pairing, .refl same tables⟩
  | true =>
    rw [finish_of_wanting wanted, finish_of_wanting (wants.symm.trans wanted), ← same.name, named]
    -- The hook sees the same scene on both sides, and tables that differ in numbers at most.
    obtain ⟨later, within, handled⟩ :=
      Matcher.finish_same same.matcher (stage.scene name none) tables totalRows
    refine ⟨later, within, ⟨rfl, same.finishPolicy, ?_, handled.matcher⟩, handled.table, ?_⟩
    · dsimp only
      rw [same.status]
      exact handled.answer.afterFinish other.status
    · rw [Journal.requestsOf_hookJournal, Journal.requestsOf_hookJournal]

/-- Completing slots that are the same leaves the same. -/
theorem complete_same (same : pairing.SameSlot slot other) (named : slot.name = name)
    (tables : pairing.SameTable stage.limits name table otherTable) (invocation : Invocation)
    {lines others : List LogicalLine} (retained : slot.status = .waiting → lines = others)
    (totalRows : Nat) :
    ∃ later, pairing.Within later ∧ SameStep later stage name
      (slot.complete stage invocation lines totalRows table)
      (other.complete stage invocation others totalRows otherTable) := by
  -- The slots catch up with the lines before they finish.
  obtain ⟨middle, within, first⟩ := catchUp_same same named tables invocation retained
  have kept := (catchUp_keeps stage invocation slot table lines).1
  obtain ⟨later, beyond, second⟩ := finish_same first.slot (kept.trans named) first.table totalRows
  exact ⟨later, within.trans beyond, first.trans second⟩

/-- A step on all slots leaves the same slot of a name when the step on that slot does. -/
theorem each_same (stage : Stage)
    {step otherStep : Slot → RegionTable → Slot × RegionTable × Journal}
    {slots others : List Slot} {own otherOwn : Option Slot}
    (singles : Singles slots name own) (otherSingles : Singles others name otherOwn)
    (frames : ∀ slot ∈ slots, ∀ table, slot.Frames slot.Own stage.id table (step slot table))
    (otherFrames : ∀ slot ∈ others, ∀ table,
      slot.Frames slot.Own stage.id table (otherStep slot table))
    (related : Option.Rel pairing.SameSlot own otherOwn)
    (tables : pairing.SameTable stage.limits name table otherTable)
    (steps : ∀ slot other, own = some slot → otherOwn = some other → pairing.SameSlot slot other →
      ∀ table otherTable, pairing.SameTable stage.limits name table otherTable →
        ∃ later, pairing.Within later ∧
          SameStep later stage name (step slot table) (otherStep other otherTable)) :
    ∃ later between otherBetween, pairing.Within later ∧
      Singles (each step slots table).1 name (own.map fun slot => (step slot between).1) ∧
      Singles (each otherStep others otherTable).1 name
        (otherOwn.map fun slot => (otherStep slot otherBetween).1) ∧
      Option.Rel later.SameSlot (own.map fun slot => (step slot between).1)
        (otherOwn.map fun slot => (otherStep slot otherBetween).1) ∧
      later.SameTable stage.limits name (each step slots table).2.1
        (each otherStep others otherTable).2.1 ∧
      Journal.requestsOf (each step slots table).2.2 name stage.id =
        Journal.requestsOf (each otherStep others otherTable).2.2 name stage.id := by
  -- On each side the table is handed to the one slot of the name by those in front of it.
  obtain ⟨between, kept, calls, before, behind⟩ := singles.each frames table
  obtain ⟨otherBetween, otherKept, otherCalls, otherBefore, otherBehind⟩ :=
    otherSingles.each otherFrames otherTable
  -- The slots in front leave the regions of the name as they were.
  have found := tables.grows before otherBefore
  cases related with
  | none =>
    refine ⟨pairing, between, otherBetween, .refl pairing, kept, otherKept, .none,
      found.grows behind otherBehind, ?_⟩
    rw [Journal.requestsOf, Journal.requestsOf, calls, otherCalls]
    rfl
  | @some slot other same =>
    obtain ⟨later, within, left⟩ := steps slot other rfl rfl same between otherBetween found
    refine ⟨later, between, otherBetween, within, kept, otherKept, .some left.slot,
      left.table.grows behind otherBehind, ?_⟩
    have requests := left.requests
    rw [Journal.requestsOf, Journal.requestsOf] at requests ⊢
    rw [calls, otherCalls]
    exact requests

end Slot

namespace Pairing

/-- Two running invocations are the same as far as the matcher of a name is concerned. -/
structure SameRunning (pairing : Pairing) (name : String) (running other : Running) : Prop where
  /-- The invocations are the same. -/
  invocation : running.invocation = other.invocation
  /-- The buffered rows are the same. -/
  buffer : running.buffer = other.buffer
  /-- The received rows are the same. -/
  rows : running.rows = other.rows
  /-- The slots of the name are the same, and so are the lines that they wait for. -/
  slots : ∃ own otherOwn, Slot.Singles running.slots name own ∧
    Slot.Singles other.slots name otherOwn ∧ Option.Rel pairing.SameSlot own otherOwn ∧
    ∀ slot ∈ own, slot.status = .waiting → running.lines = other.lines

variable {pairing : Pairing} {name : String} {running other : Running}

/-- Invocations that have just begun are the same when they seat the same slot of the name. -/
theorem sameRunning_begun {slots others : List Slot} {own : Option Slot}
    (singles : Slot.Singles slots name own) (otherSingles : Slot.Singles others name own)
    (seated : Option.Rel pairing.SameSlot own own) (invocation : Invocation) :
    pairing.SameRunning name { invocation, slots } { invocation, slots := others } :=
  -- Nothing has been received on either side.
  ⟨rfl, rfl, rfl, own, own, singles, otherSingles, seated, fun _ _ _ => rfl⟩

/-- Running invocations stay the same when more numbers are paired. -/
theorem SameRunning.mono {later : Pairing} (within : pairing.Within later)
    (same : pairing.SameRunning name running other) : later.SameRunning name running other := by
  -- Only the slots refer to the pairing.
  obtain ⟨own, otherOwn, singles, otherSingles, related, retained⟩ := same.slots
  exact ⟨same.invocation, same.buffer, same.rows, own, otherOwn, singles, otherSingles,
    related_mono (fun _ _ slots => slots.mono within) related, retained⟩

end Pairing

namespace Running

/-- Two running invocations are left the same with the same regions after the same requests. -/
structure SameStep (pairing : Pairing) (id : InvocationId) (limits : Limits) (name : String)
    (result other : Running × RegionTable × Journal) : Prop where
  /-- The invocations are the same. -/
  running : pairing.SameRunning name result.1 other.1
  /-- The regions of the name are the same. -/
  table : pairing.SameTable limits name result.2.1 other.2.1
  /-- The requests are the same. -/
  requests : Journal.requestsOf result.2.2 name id = Journal.requestsOf other.2.2 name id

variable {pairing : Pairing} {name : String} {running other : Running}
  {table otherTable : RegionTable} {limits : Limits}

/-- Delivering a line that may not have been completed leaves the same. -/
theorem deliverIfAny_same (same : pairing.SameRunning name running other)
    (tables : pairing.SameTable limits name table otherTable) (id : InvocationId)
    (given : Option LogicalLine) :
    ∃ later, pairing.Within later ∧ SameStep later id limits name
      (running.deliverIfAny id limits table given)
      (other.deliverIfAny id limits otherTable given) := by
  -- Without a line nothing happens.
  cases given with
  | none => exact ⟨pairing, .refl pairing, same, tables, rfl⟩
  | some line =>
    obtain ⟨own, otherOwn, singles, otherSingles, related, retained⟩ := same.slots
    obtain ⟨invocation, otherSlots, buffer, rows, otherLines⟩ := other
    obtain rfl : running.rows = rows := same.rows
    let stage : Stage := { id, limits, rows := running.rows }
    obtain ⟨later, between, otherBetween, within, kept, otherKept, slots, regions, requests⟩ :=
      Slot.each_same stage singles otherSingles
        (fun slot _ table => Slot.deliver_own stage slot table line)
        (fun slot _ table => Slot.deliver_own stage slot table line) related tables
        fun slot other held _ same table otherTable tables =>
          Slot.deliver_same same (singles.named slot held) tables line
    refine ⟨later, within, ⟨same.invocation, same.buffer, rfl, _, _, kept, otherKept, slots, ?_⟩,
      regions, requests⟩
    -- A slot that waits now has waited before, so the line is retained on both sides.
    intro slot member waits
    obtain ⟨old, held, rfl⟩ := Option.map_eq_some_iff.mp member
    have waited := (Slot.deliver_waiting stage old between line).mp waits
    subst held
    cases related with
    | some equal =>
      have waiting := hasWaiting_of_singles singles waited
      have otherWaiting := hasWaiting_of_singles otherSingles (equal.status ▸ waited)
      show (deliver id limits running table line).1.lines =
        (deliver id limits _ otherTable line).1.lines
      rw [(deliver_retains id limits _ table line).2,
        (deliver_retains id limits _ otherTable line).2, waiting, otherWaiting,
        retained old rfl waited]

/-- Pushing a row leaves the same. -/
theorem push_same (same : pairing.SameRunning name running other)
    (tables : pairing.SameTable limits name table otherTable) (id : InvocationId) (row : String)
    (wraps : Bool) :
    ∃ later, pairing.Within later ∧ SameStep later id limits name
      (running.push id limits table row wraps) (other.push id limits otherTable row wraps) := by
  -- The buffers take the row alike, so they complete the same line or none.
  let grown : Running := { running with
    buffer := (running.buffer.push row wraps).2
    rows := running.rows.push row }
  let otherGrown : Running := { other with
    buffer := (running.buffer.push row wraps).2
    rows := running.rows.push row }
  have equal : pairing.SameRunning name grown otherGrown :=
    ⟨same.invocation, rfl, rfl, same.slots⟩
  rw [push_eq, push_eq, ← same.buffer, ← same.rows]
  exact deliverIfAny_same equal tables id (running.buffer.push row wraps).1

/-- Completing leaves the same regions after the same requests. -/
theorem complete_same (same : pairing.SameRunning name running other)
    (tables : pairing.SameTable limits name table otherTable) (id : InvocationId) (exitCode : Int)
    (totalRows : Nat) :
    ∃ later, pairing.Within later ∧
      later.SameTable limits name (running.complete id limits table exitCode totalRows).1
        (other.complete id limits otherTable exitCode totalRows).1 ∧
      Journal.requestsOf (running.complete id limits table exitCode totalRows).2 name id =
        Journal.requestsOf (other.complete id limits otherTable exitCode totalRows).2 name id := by
  -- The pending line comes first, and then only the slot of the name calls and makes anything of
  -- it.
  let settled : Running := { running with buffer := running.buffer.flush.2 }
  let otherSettled : Running := { other with buffer := running.buffer.flush.2 }
  have equal : pairing.SameRunning name settled otherSettled :=
    ⟨same.invocation, rfl, same.rows, same.slots⟩
  obtain ⟨middle, within, left⟩ := deliverIfAny_same equal tables id running.buffer.flush.1
  rw [complete_eq, complete_eq, ← same.buffer]
  dsimp only
  generalize deliverIfAny id limits { running with buffer := running.buffer.flush.2 } table
    running.buffer.flush.1 = flushed at left ⊢
  generalize deliverIfAny id limits { other with buffer := running.buffer.flush.2 } otherTable
    running.buffer.flush.1 = otherFlushed at left ⊢
  obtain ⟨own, otherOwn, singles, otherSingles, related, retained⟩ := left.running.slots
  rw [← left.running.rows, ← left.running.invocation]
  let stage : Stage := { id, limits, rows := flushed.1.rows }
  let invocation := { flushed.1.invocation with exitCode := some exitCode }
  obtain ⟨later, _, _, beyond, _, _, _, regions, requests⟩ :=
    Slot.each_same stage singles otherSingles
      (fun slot _ table => Slot.complete_own stage invocation slot table _ totalRows)
      (fun slot _ table => Slot.complete_own stage invocation slot table _ totalRows) related
      left.table
      fun slot other held _ same table otherTable tables =>
        Slot.complete_same same (singles.named slot held) tables invocation
          (fun waits => congrArg Array.toList (retained slot held waits)) totalRows
  refine ⟨later, within.trans beyond, regions, ?_⟩
  rw [Journal.requestsOf_append, Journal.requestsOf_append, left.requests, requests]

end Running

end Annotator

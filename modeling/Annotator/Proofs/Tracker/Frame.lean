import Annotator.Proofs.Region.Growth
import Annotator.Tracker.Running

/-! A step on a slot keeps to that slot: its name, its invocation and regions of its own. -/

namespace Annotator

namespace Journal

/-- Calls are told one journal after the other. -/
@[simp] theorem callsOf_append (early late : Journal) (matcher : String)
    (invocation : InvocationId) :
    Journal.callsOf (early ++ late) matcher invocation =
      Journal.callsOf early matcher invocation ++ Journal.callsOf late matcher invocation :=
  -- Entries are selected one by one.
  List.filterMap_append

/-- An empty journal tells of no call. -/
@[simp] theorem callsOf_nil (matcher : String) (invocation : InvocationId) :
    Journal.callsOf [] matcher invocation = [] :=
  -- There is no entry to select.
  rfl

/-- Notes tell of no call. -/
@[simp] theorem callsOf_notes (notes : List Note) (matcher : String) (invocation : InvocationId) :
    Journal.callsOf (notes.map .noted) matcher invocation = [] := by
  -- Notes are no calls.
  rw [callsOf, List.filterMap_map]
  exact List.filterMap_eq_nil_iff.mpr fun note _ => rfl

/-- A call is told of to the matcher and the invocation it belongs to. -/
theorem callsOf_called (name : String) (id : InvocationId) (call : Call) (verdict : Verdict)
    (rest : Journal) (matcher : String) (invocation : InvocationId) :
    Journal.callsOf (.called name id call verdict :: rest) matcher invocation =
      (if name = matcher ∧ id = invocation then [(call, verdict)] else []) ++
        Journal.callsOf rest matcher invocation := by
  -- The first entry is selected or not.
  by_cases same : name = matcher ∧ id = invocation <;> simp [callsOf, same]

/-- What happens around a hook call tells of that call alone. -/
theorem callsOf_hookJournal (name : String) (id : InvocationId) (hook : String) (call : Call)
    (verdict : Verdict) (notes : List Note) (matcher : String) (invocation : InvocationId) :
    Journal.callsOf (hookJournal name id hook call verdict notes) matcher invocation =
      if name = matcher ∧ id = invocation then [(call, verdict)] else [] := by
  -- The notice of a failure is no call either.
  unfold hookJournal
  rw [List.cons_append, callsOf_called, callsOf_append, callsOf_notes]
  cases verdict <;> simp [callsOf]

end Journal

namespace Slot

/-- What a step on a slot may touch: new regions that are allowed, and calls of its own. -/
structure Frames (allowed : Region → Prop) (id : InvocationId) (slot : Slot)
    (table : RegionTable) (result : Slot × RegionTable × Journal) : Prop where
  /-- The slot keeps its name. -/
  name : result.1.name = slot.name
  /-- The slot keeps its policy. -/
  finishPolicy : result.1.finishPolicy = slot.finishPolicy
  /-- The table only grows by allowed regions. -/
  table : table.Grows allowed result.2.1
  /-- No other matcher and no other invocation is called. -/
  calls : ∀ matcher invocation, (matcher ≠ slot.name ∨ invocation ≠ id) →
    Journal.callsOf result.2.2 matcher invocation = []

/-- The regions of a slot bear its name. -/
def Own (slot : Slot) (region : Region) : Prop :=
  -- Names are distinct among the slots of an invocation.
  region.matcher = slot.name

variable {allowed : Region → Prop} {stage : Stage} {invocation : Invocation} {slot : Slot}
  {table : RegionTable}

/-- Doing nothing touches nothing. -/
theorem Frames.refl (id : InvocationId) : slot.Frames allowed id table (slot, table, []) :=
  -- Nothing is changed and nobody is called.
  ⟨rfl, rfl, .refl allowed table, fun _ _ _ => rfl⟩

/-- A weaker condition allows the same step. -/
theorem Frames.mono {id : InvocationId} {permitted : Region → Prop}
    {result : Slot × RegionTable × Journal} (frames : slot.Frames allowed id table result)
    (weaker : ∀ region, allowed region → permitted region) :
    slot.Frames permitted id table result :=
  -- Only the regions that are made refer to what is allowed.
  ⟨frames.name, frames.finishPolicy, frames.table.mono weaker, frames.calls⟩

/-- Two steps in a row touch no more than each of them may. -/
theorem Frames.trans {id : InvocationId} {middle last : Slot × RegionTable × Journal}
    (first : slot.Frames allowed id table middle)
    (second : middle.1.Frames allowed id middle.2.1 last) :
    slot.Frames allowed id table (last.1, last.2.1, middle.2.2 ++ last.2.2) where
  -- The names are the same, so what is foreign to the first step is foreign to the second.
  name := second.name.trans first.name
  finishPolicy := second.finishPolicy.trans first.finishPolicy
  table := first.table.trans second.table
  calls matcher other foreign := by
    rw [Journal.callsOf_append, first.calls matcher other foreign,
      second.calls matcher other (first.name ▸ foreign), List.append_nil]

/-- A hook call under a slot's own name is no call of another one. -/
theorem calls_hookJournal (hook : String) (call : Call) (verdict : Verdict) (notes : List Note)
    (matcher : String) (other : InvocationId) (foreign : matcher ≠ slot.name ∨ other ≠ stage.id) :
    Journal.callsOf (hookJournal slot.name stage.id hook call verdict notes) matcher other =
      [] := by
  -- The one call of the hook is of the slot itself.
  rw [Journal.callsOf_hookJournal, if_neg]
  rintro ⟨rfl, rfl⟩
  simp at foreign

/-- A slot that does not take lines passes over them. -/
theorem deliver_of_not_active (passive : slot.status ≠ .active) (line : LogicalLine) :
    slot.deliver stage table line = (slot, table, []) := by
  -- A slot takes lines only if it is active.
  simp [deliver, passive]

/-- A slot that takes lines hands them to its matcher. -/
theorem deliver_of_active (active : slot.status = .active) (line : LogicalLine) :
    slot.deliver stage table line =
      let handled := slot.matcher.takeLine (stage.scene slot.name (some line)) table line
      ({ slot with matcher := handled.1.matcher, status := .afterLine handled.1.answer },
        handled.2,
        hookJournal slot.name stage.id "on_line"
          (.line (stage.scene slot.name (some line)).view line) (.ofFlow handled.1.answer)
          handled.1.notes) := by
  -- This is what an active slot does with a line.
  simp [deliver, active]

/-- Delivering a line keeps to the slot. -/
theorem deliver_frames {line : LogicalLine}
    (creates : ∀ region, (stage.scene slot.name (some line)).Creates region → allowed region) :
    slot.Frames allowed stage.id table (slot.deliver stage table line) := by
  -- A slot that is active makes what its scene creates, and another makes nothing.
  by_cases active : slot.status = .active
  · rw [deliver_of_active active]
    exact ⟨rfl, rfl, Matcher.handle_grows creates _ _ _, calls_hookJournal _ _ _ _⟩
  · rw [deliver_of_not_active active]
    exact .refl stage.id

/-- Delivering a line adds regions of the slot alone. -/
theorem deliver_own (stage : Stage) (slot : Slot) (table : RegionTable) (line : LogicalLine) :
    slot.Frames slot.Own stage.id table (slot.deliver stage table line) :=
  -- What a scene creates belongs to its matcher.
  deliver_frames fun _ created => created.matcher

/-- Delivering a line keeps the name and the policy of a slot. -/
theorem deliver_keeps (stage : Stage) (slot : Slot) (table : RegionTable) (line : LogicalLine) :
    (slot.deliver stage table line).1.name = slot.name ∧
      (slot.deliver stage table line).1.finishPolicy = slot.finishPolicy := by
  -- Which regions are created makes no difference.
  have frame : slot.Frames (fun _ => True) stage.id table (slot.deliver stage table line) :=
    deliver_frames fun _ _ => trivial
  exact ⟨frame.name, frame.finishPolicy⟩

/-- Delivering lines keeps to the slot. -/
theorem deliverLines_frames {lines : List LogicalLine}
    (creates : ∀ line ∈ lines, ∀ region,
      (stage.scene slot.name (some line)).Creates region → allowed region) :
    slot.Frames allowed stage.id table (slot.deliverLines stage table lines) := by
  -- Induction on the lines, none of which changes the name of the slot.
  induction lines generalizing slot table with
  | nil => exact .refl stage.id
  | cons line rest ih =>
    have first : slot.Frames allowed stage.id table (slot.deliver stage table line) :=
      deliver_frames (creates line List.mem_cons_self)
    refine first.trans (ih fun other member => ?_)
    rw [first.name]
    exact creates other (List.mem_cons_of_mem _ member)

/-- A slot that does not take lines passes over all of them. -/
theorem deliverLines_of_not_active (passive : slot.status ≠ .active) (lines : List LogicalLine) :
    slot.deliverLines stage table lines = (slot, table, []) := by
  -- Induction on the lines, none of which is taken.
  induction lines with
  | nil => rfl
  | cons line rest ih => simp [deliverLines, deliver_of_not_active passive, ih]

/-- A slot that is not waiting has nothing to catch up with. -/
theorem catchUp_of_not_waiting (ready : slot.status ≠ .waiting) (lines : List LogicalLine) :
    slot.catchUp stage invocation table lines = (slot, table, []) := by
  -- A slot catches up only if it waits.
  simp [catchUp, ready]

/-- A waiting slot is started and takes the lines if it wants the invocation. -/
theorem catchUp_of_waiting (waiting : slot.status = .waiting) (lines : List LogicalLine) :
    slot.catchUp stage invocation table lines =
      let handled := slot.matcher.start invocation
      let later := deliverLines stage
        { slot with matcher := handled.matcher, status := .afterStart handled.answer } table lines
      (later.1, later.2.1,
        hookJournal slot.name stage.id "on_start" (.start invocation) (.ofWish handled.answer)
          handled.notes ++ later.2.2) := by
  -- This is how a waiting slot catches up.
  simp [catchUp, waiting]

/-- Catching up keeps to the slot. -/
theorem catchUp_frames {lines : List LogicalLine}
    (creates : ∀ line ∈ lines, ∀ region,
      (stage.scene slot.name (some line)).Creates region → allowed region) :
    slot.Frames allowed stage.id table (slot.catchUp stage invocation table lines) := by
  -- Only a slot that waits does anything.
  by_cases waiting : slot.status = .waiting
  · rw [catchUp_of_waiting waiting]
    -- Starting touches no region, and what follows is an ordinary delivery.
    let handled := slot.matcher.start invocation
    have started : slot.Frames allowed stage.id table
        ({ slot with matcher := handled.matcher, status := .afterStart handled.answer }, table,
          hookJournal slot.name stage.id "on_start" (.start invocation)
            (.ofWish handled.answer) handled.notes) :=
      ⟨rfl, rfl, .refl allowed table, calls_hookJournal _ _ _ _⟩
    exact started.trans (deliverLines_frames creates)
  · rw [catchUp_of_not_waiting waiting]
    exact .refl stage.id

/-- Catching up keeps the name and the policy of a slot. -/
theorem catchUp_keeps (stage : Stage) (invocation : Invocation) (slot : Slot)
    (table : RegionTable) (lines : List LogicalLine) :
    (slot.catchUp stage invocation table lines).1.name = slot.name ∧
      (slot.catchUp stage invocation table lines).1.finishPolicy = slot.finishPolicy := by
  -- Which regions are created makes no difference.
  have frame : slot.Frames (fun _ => True) stage.id table
      (slot.catchUp stage invocation table lines) :=
    catchUp_frames fun _ _ _ _ => trivial
  exact ⟨frame.name, frame.finishPolicy⟩

/-- Completing catches up and then finishes. -/
theorem complete_eq (lines : List LogicalLine) (totalRows : Nat) :
    slot.complete stage invocation lines totalRows table =
      let caught := slot.catchUp stage invocation table lines
      let finished := caught.1.finish stage caught.2.1 totalRows
      (finished.1, finished.2.1, caught.2.2 ++ finished.2.2) :=
  -- A slot completes by catching up and finishing.
  rfl

/-- Slots that have come equally far under the same policy want finishing alike. -/
theorem wantsFinish_congr {slot other : Slot} (status : slot.status = other.status)
    (finishPolicy : slot.finishPolicy = other.finishPolicy) :
    slot.wantsFinish = other.wantsFinish := by
  -- Nothing else of a slot is asked for.
  rw [wantsFinish, wantsFinish, status, finishPolicy]

/-- A slot that does not want finishing is left alone. -/
theorem finish_of_not_wanting (unwanted : slot.wantsFinish = false) (totalRows : Nat) :
    slot.finish stage table totalRows = (slot, table, []) := by
  -- A slot finishes only if it wants to.
  simp [finish, unwanted]

/-- A slot that wants finishing has its matcher finished. -/
theorem finish_of_wanting (wanted : slot.wantsFinish = true) (totalRows : Nat) :
    slot.finish stage table totalRows =
      let handled := slot.matcher.finish (stage.scene slot.name none) table totalRows
      ({ slot with
          matcher := handled.1.matcher, status := slot.status.afterFinish handled.1.answer },
        handled.2,
        hookJournal slot.name stage.id "on_finish"
          (.finish (stage.scene slot.name none).view totalRows) (.ofWork handled.1.answer)
          handled.1.notes) := by
  -- This is how a slot finishes that wants to.
  simp [finish, wanted]

/-- Finishing keeps to the slot. -/
theorem finish_frames {totalRows : Nat}
    (creates : ∀ region, (stage.scene slot.name none).Creates region → allowed region) :
    slot.Frames allowed stage.id table (slot.finish stage table totalRows) := by
  -- A slot that finishes makes what its scene creates, and another makes nothing.
  by_cases wanted : slot.wantsFinish = true
  · rw [finish_of_wanting wanted]
    exact ⟨rfl, rfl, Matcher.handle_grows creates _ _ _, calls_hookJournal _ _ _ _⟩
  · rw [finish_of_not_wanting (by simpa using wanted)]
    exact .refl stage.id

/-- Completing keeps to the slot. -/
theorem complete_frames {lines : List LogicalLine} {totalRows : Nat}
    (creates : ∀ line : Option LogicalLine, (∀ held, line = some held → held ∈ lines) →
      ∀ region, (stage.scene slot.name line).Creates region → allowed region) :
    slot.Frames allowed stage.id table
      (slot.complete stage invocation lines totalRows table) := by
  -- The scenes are those of the lines, and one without a line.
  have first : slot.Frames allowed stage.id table (slot.catchUp stage invocation table lines) :=
    catchUp_frames fun line member => creates (some line) fun held same =>
      Option.some.inj same ▸ member
  refine first.trans (finish_frames ?_)
  rw [first.name]
  exact creates none fun held same => nomatch same

/-- Completing adds regions of the slot alone. -/
theorem complete_own (stage : Stage) (invocation : Invocation) (slot : Slot) (table : RegionTable)
    (lines : List LogicalLine) (totalRows : Nat) :
    slot.Frames slot.Own stage.id table
      (slot.complete stage invocation lines totalRows table) :=
  -- What a scene creates belongs to its matcher.
  complete_frames fun _ _ _ created => created.matcher

/-- What a step on each of several slots may touch. -/
structure AllFrame (allowed : Region → Prop) (id : InvocationId) (slots : List Slot)
    (table : RegionTable) (result : List Slot × RegionTable × Journal) : Prop where
  /-- The slots keep their names and their order. -/
  names : result.1.map (·.name) = slots.map (·.name)
  /-- The table only grows by allowed regions. -/
  table : table.Grows allowed result.2.1
  /-- No matcher without a slot and no other invocation is called. -/
  calls : ∀ matcher invocation, (matcher ∉ slots.map (·.name) ∨ invocation ≠ id) →
    Journal.callsOf result.2.2 matcher invocation = []

/-- Passing over slots in two groups gives the same as passing over all of them. -/
theorem each_append (step : Slot → RegionTable → Slot × RegionTable × Journal)
    (front back : List Slot) (table : RegionTable) :
    each step (front ++ back) table =
      let first := each step front table
      let second := each step back first.2.1
      (first.1 ++ second.1, second.2.1, first.2.2 ++ second.2.2) := by
  -- Induction on the slots in front, which hand their table on to the others.
  induction front generalizing table with
  | nil => rfl
  | cons slot rest ih => simp [each, ih]

/-- Steps that keep to their slots touch together no more than each of them may. -/
theorem each_frames {step : Slot → RegionTable → Slot × RegionTable × Journal}
    {id : InvocationId} {slots : List Slot}
    (frames : ∀ slot ∈ slots, ∀ table, slot.Frames allowed id table (step slot table)) :
    AllFrame allowed id slots table (each step slots table) := by
  -- Induction on the slots, which hand the table on.
  induction slots generalizing table with
  | nil => exact ⟨rfl, .refl allowed table, fun _ _ _ => rfl⟩
  | cons slot rest ih =>
    -- The rest steps on the table that the first slot leaves.
    have first := frames slot List.mem_cons_self table
    have later : AllFrame allowed id rest (step slot table).2.1
        (each step rest (step slot table).2.1) :=
      ih fun other member => frames other (List.mem_cons_of_mem _ member)
    refine ⟨?_, first.table.trans later.table, fun matcher invocation foreign => ?_⟩
    · show (step slot table).1.name :: (each step rest (step slot table).2.1).1.map (·.name) = _
      rw [first.name, later.names]
      rfl
    · show Journal.callsOf ((step slot table).2.2 ++ (each step rest (step slot table).2.1).2.2)
        matcher invocation = []
      simp only [List.map_cons, List.mem_cons, not_or] at foreign
      rw [Journal.callsOf_append, first.calls matcher invocation (foreign.imp_left And.left),
        later.calls matcher invocation (foreign.imp_left And.right), List.append_nil]

/-- The slot of a name among slots of other names, if there is one. -/
structure Singles (slots : List Slot) (name : String) (own : Option Slot) : Prop where
  /-- All other slots stand in front of it or behind it and have other names. -/
  split : ∃ front back, slots = front ++ own.toList ++ back ∧
    ∀ other ∈ front ++ back, other.name ≠ name
  /-- The slot has the name. -/
  named : ∀ slot ∈ own, slot.name = name

/-- Slots that keep their names keep away from a name that none of them has. -/
theorem AllFrame.keeps_apart {id : InvocationId} {slots : List Slot} {name : String}
    {result : List Slot × RegionTable × Journal} (frame : AllFrame allowed id slots table result)
    (apart : ∀ slot ∈ slots, slot.name ≠ name) :
    (∀ slot ∈ result.1, slot.name ≠ name) ∧ Journal.callsOf result.2.2 name id = [] := by
  -- No slot gets a name that none had.
  have absent : name ∉ slots.map (·.name) := by
    intro member
    obtain ⟨slot, present, same⟩ := List.mem_map.mp member
    exact apart slot present same
  refine ⟨fun slot member same => absent ?_, frame.calls name id (.inl absent)⟩
  rw [← frame.names]
  exact List.mem_map.mpr ⟨slot, member, same⟩

/-- Steps that add regions of their own slots keep away from a name that none of them has. -/
theorem each_apart {step : Slot → RegionTable → Slot × RegionTable × Journal}
    {id : InvocationId} {slots : List Slot} {name : String}
    (own : ∀ slot ∈ slots, ∀ table, slot.Frames slot.Own id table (step slot table))
    (apart : ∀ slot ∈ slots, slot.name ≠ name) (table : RegionTable) :
    AllFrame (fun region => region.matcher ≠ name) id slots table (each step slots table) := by
  -- Each slot makes regions of its own name, which is another.
  refine each_frames fun slot member between => (own slot member between).mono ?_
  intro region named
  rw [named]
  exact apart slot member

/--
Only the step on the slot of a name calls the matcher of that name and adds regions of it.

What the slots in front and behind do to the table makes no difference to the matcher.
-/
theorem Singles.each {step : Slot → RegionTable → Slot × RegionTable × Journal}
    {id : InvocationId} {slots : List Slot} {name : String} {own : Option Slot}
    (singles : Singles slots name own)
    (frames : ∀ slot ∈ slots, ∀ table, slot.Frames slot.Own id table (step slot table))
    (table : RegionTable) :
    ∃ between,
      Singles (each step slots table).1 name (own.map fun slot => (step slot between).1) ∧
      Journal.callsOf (each step slots table).2.2 name id =
        (own.elim [] fun slot => Journal.callsOf (step slot between).2.2 name id) ∧
      table.Grows (fun region => region.matcher ≠ name) between ∧
      (own.elim between fun slot => (step slot between).2.1).Grows
        (fun region => region.matcher ≠ name) (each step slots table).2.1 := by
  -- The slots are split at the one of the name, and the others leave what is its alone.
  obtain ⟨⟨front, back, rfl, apart⟩, named⟩ := singles
  -- The table that the step finds is the one that the slots in front left.
  let first := Slot.each step front table
  have before : AllFrame (fun region => region.matcher ≠ name) id front table first :=
    each_apart (fun slot member => frames slot (by simp [member]))
      (fun slot member => apart slot (List.mem_append_left back member)) table
  obtain ⟨apartFront, quietFront⟩ :=
    before.keeps_apart fun slot member => apart slot (List.mem_append_left back member)
  let middle := Slot.each step own.toList first.2.1
  let last := Slot.each step back middle.2.1
  have behind : AllFrame (fun region => region.matcher ≠ name) id back middle.2.1 last :=
    each_apart (fun slot member => frames slot (by simp [member]))
      (fun slot member => apart slot (List.mem_append_right front member)) middle.2.1
  obtain ⟨apartBack, quietBack⟩ :=
    behind.keeps_apart fun slot member => apart slot (List.mem_append_right front member)
  have whole : Slot.each step (front ++ own.toList ++ back) table =
      (first.1 ++ middle.1 ++ last.1, last.2.1, first.2.2 ++ middle.2.2 ++ last.2.2) := by
    rw [each_append, each_append]
  have passed : middle.2.1 = own.elim first.2.1 fun slot => (step slot first.2.1).2.1 := by
    cases own <;> rfl
  refine ⟨first.2.1, ?_, ?_, before.table, ?_⟩
  · refine ⟨⟨first.1, last.1, ?_, ?_⟩, ?_⟩
    · rw [whole]
      cases own <;> rfl
    · intro other member
      rcases List.mem_append.mp member with early | late
      · exact apartFront other early
      · exact apartBack other late
    · intro slot member
      obtain ⟨old, present, rfl⟩ := Option.map_eq_some_iff.mp member
      have kept := (frames old (by simp [present]) first.2.1).name
      exact kept.trans (named old present)
  · rw [whole, Journal.callsOf_append, Journal.callsOf_append, quietFront, quietBack,
      List.append_nil, List.nil_append]
    cases own with
    | none => rfl
    | some slot =>
      show Journal.callsOf ((step slot first.2.1).2.2 ++ []) name id = _
      rw [List.append_nil]
      rfl
  · rw [whole, ← passed]
    exact behind.table

end Slot

namespace Running

/-- What a step on a running invocation leaves alone and what it may touch. -/
structure Frames (allowed : Region → Prop) (id : InvocationId) (running : Running)
    (table : RegionTable) (result : Running × RegionTable × Journal) : Prop where
  /-- The invocation stays as it was begun. -/
  invocation : result.1.invocation = running.invocation
  /-- The buffer stays as it is. -/
  buffer : result.1.buffer = running.buffer
  /-- The received rows stay as they are. -/
  rows : result.1.rows = running.rows
  /-- The slots keep to themselves. -/
  slots : Slot.AllFrame allowed id running.slots table (result.1.slots, result.2)

variable {allowed : Region → Prop} {id : InvocationId} {limits : Limits} {running : Running}
  {table : RegionTable}

/-- A running invocation has a waiting slot when the slot of some name waits. -/
theorem hasWaiting_of_singles {name : String} {slot : Slot}
    (singles : Slot.Singles running.slots name (some slot)) (waits : slot.status = .waiting) :
    running.hasWaiting = true := by
  -- The slot is among those of the invocation.
  obtain ⟨front, back, split, _⟩ := singles.split
  simp [hasWaiting, split, waits]

/-- Delivering a line passes over the slots and retains the line for those that wait. -/
theorem deliver_eq (line : LogicalLine) :
    running.deliver id limits table line =
      let passed := Slot.each
        (fun slot table => slot.deliver { id, limits, rows := running.rows } table line)
        running.slots table
      ({ running with
          slots := passed.1
          lines := if passed.1.any (·.status == .waiting) then running.lines.push line
            else running.lines },
        passed.2.1, passed.2.2) :=
  -- This is how an invocation takes a line.
  rfl

/-- Delivering a line keeps to the slots. -/
theorem deliver_frames {line : LogicalLine}
    (creates : ∀ slot ∈ running.slots, ∀ region,
      (Stage.scene { id, limits, rows := running.rows } slot.name (some line)).Creates region →
        allowed region) :
    running.Frames allowed id table (running.deliver id limits table line) := by
  -- The slots take the line one by one.
  rw [deliver_eq]
  exact ⟨rfl, rfl, rfl, Slot.each_frames fun slot member _ =>
    Slot.deliver_frames (creates slot member)⟩

/-- Delivering a line that may not have been completed keeps to the slots. -/
theorem deliverIfAny_frames {given : Option LogicalLine}
    (creates : ∀ line, given = some line → ∀ slot ∈ running.slots, ∀ region,
      (Stage.scene { id, limits, rows := running.rows } slot.name (some line)).Creates region →
        allowed region) :
    running.Frames allowed id table (running.deliverIfAny id limits table given) := by
  -- Without a line nothing is changed and nobody is called.
  cases given with
  | none => exact ⟨rfl, rfl, rfl, rfl, .refl allowed table, fun _ _ _ => rfl⟩
  | some line => exact deliver_frames (creates line rfl)

/-- Only retained lines and the line just delivered are retained. -/
theorem mem_lines_deliverIfAny {given : Option LogicalLine} {held : LogicalLine}
    (member : held ∈ (running.deliverIfAny id limits table given).1.lines) :
    held ∈ running.lines ∨ given = some held := by
  -- A line is kept at the end, or not at all.
  cases given with
  | none => exact .inl member
  | some line =>
    rw [deliverIfAny, deliver_eq] at member
    dsimp only at member
    split at member
    · exact (Array.mem_push.mp member).imp_right fun same => by rw [same]
    · exact .inl member

/-- Pushing a row records it and delivers the line that it completes. -/
theorem push_eq (row : String) (wraps : Bool) :
    running.push id limits table row wraps =
      deliverIfAny id limits
        { running with
          buffer := (running.buffer.push row wraps).2
          rows := running.rows.push row } table (running.buffer.push row wraps).1 :=
  -- The row goes through the buffer first.
  rfl

/-- Pushing a row keeps to the slots. -/
theorem push_frames {row : String} {wraps : Bool}
    (creates : ∀ line, (running.buffer.push row wraps).1 = some line →
      ∀ slot ∈ running.slots, ∀ region,
        (Stage.scene { id, limits, rows := running.rows.push row } slot.name
          (some line)).Creates region → allowed region) :
    Slot.AllFrame allowed id running.slots table
      ((running.push id limits table row wraps).1.slots,
        (running.push id limits table row wraps).2) := by
  -- The row itself changes no slot.
  let grown : Running := { running with
    buffer := (running.buffer.push row wraps).2
    rows := running.rows.push row }
  have frame : grown.Frames allowed id table
      (grown.deliverIfAny id limits table (running.buffer.push row wraps).1) :=
    deliverIfAny_frames creates
  exact frame.slots

/-- Pushing a row calls the matchers of the invocation alone. -/
theorem push_calls (running : Running) (row : String) (wraps : Bool) (matcher : String)
    (invocation : InvocationId)
    (foreign : matcher ∉ running.slots.map (·.name) ∨ invocation ≠ id) :
    Journal.callsOf (running.push id limits table row wraps).2.2 matcher invocation = [] := by
  -- Which regions are created makes no difference.
  have frame : Slot.AllFrame (fun _ => True) id running.slots table
      ((running.push id limits table row wraps).1.slots,
        (running.push id limits table row wraps).2) :=
    push_frames fun _ _ _ _ _ _ => trivial
  exact frame.calls matcher invocation foreign

/-- Completing an invocation passes over the slots once more behind its last line. -/
theorem complete_eq (exitCode : Int) (totalRows : Nat) :
    running.complete id limits table exitCode totalRows =
      let flushed := deliverIfAny id limits { running with buffer := running.buffer.flush.2 } table
        running.buffer.flush.1
      let passed := Slot.each
        (Slot.complete { id, limits, rows := flushed.1.rows }
          { flushed.1.invocation with exitCode := some exitCode } flushed.1.lines.toList totalRows)
        flushed.1.slots flushed.2.1
      (passed.2.1, flushed.2.2 ++ passed.2.2) :=
  -- The pending line is delivered before the slots complete.
  rfl

/-- Completing an invocation keeps to its slots. -/
theorem complete_frames {exitCode : Int} {totalRows : Nat}
    (creates : ∀ line : Option LogicalLine,
      (∀ held, line = some held → held ∈ running.lines ∨ running.buffer.flush.1 = some held) →
      ∀ slot ∈ running.slots, ∀ region,
        (Stage.scene { id, limits, rows := running.rows } slot.name line).Creates region →
          allowed region) :
    table.Grows allowed (running.complete id limits table exitCode totalRows).1 ∧
      ∀ matcher invocation, (matcher ∉ running.slots.map (·.name) ∨ invocation ≠ id) →
        Journal.callsOf (running.complete id limits table exitCode totalRows).2 matcher
          invocation = [] := by
  -- The last line is delivered before the slots are completed.
  let settled : Running := { running with buffer := running.buffer.flush.2 }
  let flushed := deliverIfAny id limits settled table running.buffer.flush.1
  have first : settled.Frames allowed id table flushed :=
    deliverIfAny_frames fun line same slot member => creates (some line)
      (fun held equal => .inr (same.trans equal)) slot member
  let stage : Stage := { id, limits, rows := flushed.1.rows }
  have kept : ∀ held ∈ flushed.1.lines,
      held ∈ settled.lines ∨ running.buffer.flush.1 = some held :=
    fun held present => mem_lines_deliverIfAny present
  -- A slot of the same name was there before the last line.
  have fits : ∀ slot ∈ flushed.1.slots, ∀ line : Option LogicalLine,
      (∀ held, line = some held → held ∈ flushed.1.lines.toList) →
      ∀ region, (stage.scene slot.name line).Creates region → allowed region := by
    intro slot member line known region
    have named : slot.name ∈ settled.slots.map (·.name) :=
      first.slots.names ▸ List.mem_map.mpr ⟨slot, member, rfl⟩
    obtain ⟨old, present, same⟩ := List.mem_map.mp named
    have unchanged : stage = { id, limits, rows := running.rows } := by
      simp only [stage, first.rows, settled]
    rw [← same, unchanged]
    exact creates line (fun held equal =>
      kept held (Array.mem_toList_iff.mp (known held equal))) old present region
  have second : Slot.AllFrame allowed id flushed.1.slots flushed.2.1
      (Slot.each (Slot.complete stage { flushed.1.invocation with exitCode := some exitCode }
        flushed.1.lines.toList totalRows) flushed.1.slots flushed.2.1) :=
    Slot.each_frames fun slot member _ => Slot.complete_frames (fits slot member)
  rw [complete_eq]
  refine ⟨first.slots.table.trans second.table, fun matcher invocation foreign => ?_⟩
  have names : flushed.1.slots.map (·.name) = running.slots.map (·.name) := first.slots.names
  show Journal.callsOf (flushed.2.2 ++ _) matcher invocation = []
  rw [Journal.callsOf_append, first.slots.calls matcher invocation foreign,
    second.calls matcher invocation (names ▸ foreign), List.append_nil]

/-- Completing an invocation calls its matchers alone. -/
theorem complete_calls (running : Running) (exitCode : Int) (totalRows : Nat) (matcher : String)
    (invocation : InvocationId)
    (foreign : matcher ∉ running.slots.map (·.name) ∨ invocation ≠ id) :
    Journal.callsOf (running.complete id limits table exitCode totalRows).2 matcher invocation =
      [] := by
  -- Which regions are created makes no difference.
  have frame : table.Grows (fun _ => True)
        (running.complete id limits table exitCode totalRows).1 ∧
      ∀ matcher invocation, (matcher ∉ running.slots.map (·.name) ∨ invocation ≠ id) →
        Journal.callsOf (running.complete id limits table exitCode totalRows).2 matcher
          invocation = [] :=
    complete_frames fun _ _ _ _ _ _ => trivial
  exact frame.2 matcher invocation foreign

end Running

end Annotator

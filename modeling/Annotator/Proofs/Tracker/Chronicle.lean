import Annotator.Proofs.Tracker.Beginning
import Annotator.Proofs.Tracker.Concurrency
import Annotator.Proofs.Tracker.Protocol
import Mathlib.Data.List.Nodup

/-! What happens to an invocation is told turn by turn, from its beginning to its end. -/

namespace Annotator

namespace Slot

/-- What a roster tells of a slot. -/
def outline (slot : Slot) : String × Bool :=
  -- Whether it waits shows in its status.
  (slot.name, slot.status == .waiting)

/-- A line changes nothing that a roster tells of slots. -/
theorem outline_each_deliver (stage : Stage) (line : LogicalLine) (slots : List Slot)
    (table : RegionTable) :
    (each (fun slot table => slot.deliver stage table line) slots table).1.map outline =
      slots.map outline := by
  -- Induction on the slots, as a line neither renames a slot nor makes it wait.
  induction slots generalizing table with
  | nil => rfl
  | cons slot rest ih =>
    have waiting : ((slot.deliver stage table line).1.status == .waiting) =
        (slot.status == .waiting) := by
      rw [Bool.eq_iff_iff, beq_iff_eq, beq_iff_eq]
      exact deliver_waiting stage slot table line
    rw [each, List.map_cons, List.map_cons, ih, outline, outline, waiting,
      (deliver_keeps stage slot table line).1]

end Slot

/-- Slots fit a roster when they stand in its order and just those wait that are to wait. -/
structure Roster.Fits (roster : Roster) (slots : List Slot) : Prop where
  /-- The slots stand in order. -/
  rising : (slots.map Slot.outline).Pairwise fun early late =>
    roster.position early.1 < roster.position late.1
  /-- A slot waits if its matcher is to wait. -/
  waiting : ∀ outline ∈ slots.map Slot.outline, outline.2 = roster.waits outline.1

namespace Roster.Fits

variable {roster : Roster} {slots : List Slot}

/-- The slots stand in the order of their positions. -/
theorem positions (fits : roster.Fits slots) :
    slots.Pairwise fun early late => roster.position early.name < roster.position late.name := by
  -- The outlines of the slots do.
  have rising := fits.rising
  rwa [List.pairwise_map] at rising

/-- A slot waits exactly if the roster says so. -/
theorem status (fits : roster.Fits slots) {slot : Slot} (member : slot ∈ slots) :
    slot.status = .waiting ↔ roster.waits slot.name = true := by
  -- The outline of the slot says whether it waits.
  have same := fits.waiting slot.outline (List.mem_map_of_mem member)
  rw [Slot.outline] at same
  rw [← same, beq_iff_eq]

/-- Slots of a roster have distinct names. -/
theorem distinct (fits : roster.Fits slots) : (slots.map (·.name)).Nodup := by
  -- Slots at different positions have different names.
  rw [List.Nodup, List.pairwise_map]
  refine fits.positions.imp fun {early late} less same => ?_
  rw [same] at less
  exact Nat.lt_irrefl _ less

end Roster.Fits

namespace Running

variable {roster : Roster} {running : Running} {received : List String} (id : InvocationId)
  (limits : Limits) (table : RegionTable)

/-- A line is taken by all matchers that take lines, one after the other. -/
theorem deliver_plays (heard : running.rows.toList <+: received) (fits : roster.Fits running.slots)
    (line : LogicalLine) :
    ∃ turns, Slot.AllPlay id limits received running.slots table
        ((running.deliver id limits table line).1.slots, (running.deliver id limits table line).2)
        turns ∧
      roster.Within ⟨2, line.startRow, 0, 0⟩ ⟨2, line.startRow + 1, 0, 0⟩ turns := by
  -- The slots take the line one after the other, each in its own moment.
  let stage : Stage := { id, limits, rows := running.rows }
  have onward {i j : Nat} (ordered : i ≤ j) :
      (⟨2, line.startRow, i, 0⟩ : Moment) ≤ ⟨2, line.startRow, j, 0⟩ := by
    simp only [Moment.le_iff, Moment.lt_iff]
    omega
  have steps : ∀ slot ∈ running.slots, ∀ table, ∃ turns,
      slot.Plays id limits received table (slot.deliver stage table line) turns ∧
        roster.Within ⟨2, line.startRow, roster.position slot.name, 0⟩
          ⟨2, line.startRow, roster.position slot.name + 1, 0⟩ turns := by
    intro slot member table
    have hears : stage.rows.toList <+: received := heard
    obtain ⟨turns, plays, passive, within⟩ := slot.deliver_plays roster hears table line
    refine ⟨turns, plays, ?_⟩
    cases waits : roster.waits slot.name with
    | true =>
      -- A slot that waits takes no line.
      have status := (fits.status member).mpr waits
      rw [passive (by simp [status])]
      exact .nothing (onward (Nat.le_succ _))
    | false =>
      rw [Roster.lineMoment, waits] at within
      refine within.widen (Moment.le_refl _) ?_
      simp only [Bool.false_eq_true, if_false, Moment.le_iff, Moment.lt_iff, Moment.next]
      omega
  refine Slot.each_plays roster onward steps fits.positions table 0 (fun _ _ => Nat.zero_le _)
    fun position => ?_
  simp only [Moment.le_iff, Moment.lt_iff]
  omega

/-- The slots fit a roster still when a line was delivered. -/
theorem deliver_fits (fits : roster.Fits running.slots) (line : LogicalLine) :
    roster.Fits (running.deliver id limits table line).1.slots := by
  -- A line keeps the outlines, and nothing else is asked of them.
  have same := Slot.outline_each_deliver { id, limits, rows := running.rows } line running.slots
    table
  rw [deliver_eq]
  exact ⟨same.symm ▸ fits.rising, same.symm ▸ fits.waiting⟩

/-- A line that may not have been completed is taken like any other one if it was. -/
theorem deliverIfAny_plays (heard : running.rows.toList <+: received)
    (fits : roster.Fits running.slots) (given : Option LogicalLine) {first last : Nat}
    (ordered : first ≤ last)
    (begun : ∀ line, given = some line → line.startRow = first ∧ line.startRow < last) :
    (∃ turns, Slot.AllPlay id limits received running.slots table
        ((running.deliverIfAny id limits table given).1.slots,
          (running.deliverIfAny id limits table given).2) turns ∧
        roster.Within ⟨2, first, 0, 0⟩ ⟨2, last, 0, 0⟩ turns) ∧
      roster.Fits (running.deliverIfAny id limits table given).1.slots := by
  -- Without a line nothing is played, and with one the turns fall to its first row.
  cases given with
  | none =>
    refine ⟨⟨[], .refl _ _ _ _ _, .nothing ?_⟩, fits⟩
    simp only [Moment.le_iff, Moment.lt_iff]
    omega
  | some line =>
    obtain ⟨same, before⟩ := begun line rfl
    obtain ⟨turns, plays, within⟩ := deliver_plays id limits table heard fits line
    refine ⟨⟨turns, plays, within.widen ?_ ?_⟩, deliver_fits id limits table fits line⟩
    · rw [same]
      exact Moment.le_refl _
    · simp only [Moment.le_iff, Moment.lt_iff]
      omega

/-- The last line is taken like any other one, and then each matcher takes its remaining turns. -/
theorem complete_plays (heard : running.rows.toList <+: received)
    (fits : roster.Fits running.slots)
    (rising : running.hasWaiting = true →
      (running.lines.toList ++ running.buffer.flush.1.toList).Pairwise (·.startRow < ·.startRow))
    (exitCode : Int) (totalRows : Nat) :
    ∃ left turns, Slot.AllPlay id limits received running.slots table
        (left, running.complete id limits table exitCode totalRows) turns ∧
      roster.Within ⟨2, running.buffer.opening, 0, 0⟩ ⟨4, 0, 0, 0⟩ turns := by
  -- The last line comes first, and behind it the slots are completed one after the other.
  let settled : Running := { running with buffer := running.buffer.flush.2 }
  let flushed := settled.deliverIfAny id limits table running.buffer.flush.1
  have begun : ∀ line, running.buffer.flush.1 = some line →
      line.startRow = running.buffer.opening ∧ line.startRow < running.buffer.opening + 1 :=
    fun line held => ⟨LineBuffer.opening_flush held, by rw [LineBuffer.opening_flush held]; omega⟩
  have still : roster.Fits settled.slots := fits
  obtain ⟨⟨turns, plays, within⟩, onward⟩ := deliverIfAny_plays id limits table
    (show settled.rows.toList <+: received from heard) still running.buffer.flush.1
    (Nat.le_succ running.buffer.opening) begun
  obtain ⟨waiting, lines⟩ :=
    settled.deliverIfAny_retains id limits table running.buffer.flush.1
  have frame : settled.Frames (fun _ => True) id table flushed :=
    Running.deliverIfAny_frames fun _ _ _ _ _ _ => trivial
  let stage : Stage := { id, limits, rows := flushed.1.rows }
  let invocation := { flushed.1.invocation with exitCode := some exitCode }
  have hears : stage.rows.toList <+: received := by
    rw [show stage.rows = running.rows from frame.rows]
    exact heard
  have later {i j : Nat} (ordered : i ≤ j) : (⟨3, i, 0, 0⟩ : Moment) ≤ ⟨3, j, 0, 0⟩ := by
    simp only [Moment.le_iff, Moment.lt_iff]
    omega
  have steps : ∀ slot ∈ flushed.1.slots, ∀ table, ∃ turns,
      slot.Plays id limits received table
          (slot.complete stage invocation flushed.1.lines.toList totalRows table) turns ∧
        roster.Within ⟨3, roster.position slot.name, 0, 0⟩
          ⟨3, roster.position slot.name + 1, 0, 0⟩ turns := by
    intro slot member table
    refine slot.complete_plays roster hears table invocation totalRows fun status => ?_
    -- Lines were retained for the slot, so all of them are there.
    have waits : flushed.1.hasWaiting = true :=
      List.any_eq_true.mpr ⟨slot, member, beq_iff_eq.mpr status⟩
    rw [show flushed.1.lines.toList = settled.lines.toList ++ running.buffer.flush.1.toList from
      lines (waiting ▸ waits)]
    exact ⟨(onward.status member).mp status, rising (waiting ▸ waits)⟩
  obtain ⟨others, playsLater, withinLater⟩ := Slot.each_plays roster later steps onward.positions
    flushed.2.1 0 (fun _ _ => Nat.zero_le _)
    (fun position => show (⟨3, position, 0, 0⟩ : Moment) ≤ ⟨4, 0, 0, 0⟩ by
      simp only [Moment.le_iff, Moment.lt_iff]
      omega)
  refine ⟨_, turns ++ others, plays.trans playsLater, within.append (withinLater.widen ?_ ?_)⟩
  · simp only [Moment.le_iff, Moment.lt_iff]
    omega
  · exact Moment.le_refl _

end Running

/-- What is settled about the calls of an invocation when it begins. -/
structure Playbill where
  /-- The order of the matchers, and which of them wait. -/
  roster : Roster
  /-- The matchers that attached. -/
  attachments : List Attachment
  /-- The turns in which the factories were asked. -/
  asking : List Turn
  /-- The number of the invocation. -/
  id : InvocationId
  /-- The limits on what is created. -/
  limits : Limits

namespace Playbill

variable {playbill : Playbill}

/-- The moment up to which an invocation has been told. -/
def told (found : Option Running) : Moment :=
  -- While it runs the next line is still to come.
  match found with
  | some running => ⟨2, running.buffer.opening, 0, 0⟩
  | none => ⟨4, 0, 0, 0⟩

/-- What happened to an invocation is told by turns. -/
structure Tells (playbill : Playbill) (life : Life) (journal : Journal) (table : RegionTable)
    (found : Option Running) (turns : List Turn) : Prop where
  /-- All calls are told in order. -/
  calls : Journal.callsIn journal playbill.id = turns.map Turn.told
  /-- All regions are told in order. -/
  regions : table.forInvocation playbill.id = turns.flatMap Turn.made
  /-- The factories were asked at the beginning. -/
  asking : (turns.filter fun turn => !turn.call.isHook) = playbill.asking
  /-- Only hooks of attached matchers are called. -/
  named : ∀ turn ∈ turns, turn.call.isHook = true →
    turn.matcher ∈ playbill.attachments.map (·.name)
  /-- Each matcher enacts its turns, which lead to its state. -/
  enacts : ∀ attachment ∈ playbill.attachments, ∃ last,
    Matcher.Enacts playbill.id playbill.limits (life.rows.map (·.1)) attachment.name
        attachment.matcher (Turn.hooksOf attachment.name turns) last ∧
      ∀ running ∈ found, ∀ slot ∈ running.slots, slot.name = attachment.name →
        slot.matcher = last
  /-- The turns are taken one after the other. -/
  within : playbill.roster.Within ⟨0, 0, 0, 0⟩ (told found) turns

variable {life later : Life} {journal more : Journal} {table next : RegionTable}
  {running : Running} {found after : Option Running} {turns new : List Turn}

/-- Nothing new is told of an invocation that is not called and gets no region. -/
theorem Tells.still (tells : playbill.Tells life journal table found turns)
    (rows : later.rows = life.rows) (quiet : Journal.callsIn more playbill.id = [])
    (same : next.forInvocation playbill.id = table.forInvocation playbill.id)
    (left : after = found ∨ after = none) :
    playbill.Tells later (journal ++ more) next after turns where
  -- Nothing is called, and what was enacted so far is enacted still.
  calls := by rw [Journal.callsIn_append, quiet, List.append_nil, tells.calls]
  regions := same.trans tells.regions
  asking := tells.asking
  named := tells.named
  enacts attachment member := by
    obtain ⟨last, enacts, held⟩ := tells.enacts attachment member
    refine ⟨last, rows ▸ enacts, fun running present slot listed => ?_⟩
    rcases left with rfl | rfl
    · exact held running present slot listed
    · cases present
  within := by
    rcases left with rfl | rfl
    · exact tells.within
    · refine tells.within.widen (Moment.le_refl _) ?_
      cases found with
      | none => exact Moment.le_refl _
      | some running =>
        simp only [told, Moment.le_iff, Moment.lt_iff]
        omega

/-- The turns that are taken next are told behind those that were taken. -/
theorem Tells.goesOn (tells : playbill.Tells life journal table (some running) turns)
    (listed : ∀ slot ∈ running.slots, slot.name ∈ playbill.attachments.map (·.name))
    (distinct : (running.slots.map (·.name)).Nodup)
    (heard : life.rows.map (·.1) <+: later.rows.map (·.1)) {left : List Slot}
    (plays : Slot.AllPlay playbill.id playbill.limits (later.rows.map (·.1)) running.slots table
      (left, next, more) new)
    (kept : ∀ running ∈ after, running.slots = left)
    (within : playbill.roster.Within ⟨2, running.buffer.opening, 0, 0⟩ (told after) new) :
    playbill.Tells later (journal ++ more) next after (turns ++ new) where
  calls := by rw [Journal.callsIn_append, tells.calls, plays.calls, List.map_append]
  regions := by
    have own : (new.flatMap Turn.made).filter (·.invocation == playbill.id) =
        new.flatMap Turn.made :=
      List.filter_eq_self.mpr fun region member => beq_iff_eq.mpr (plays.made region member)
    rw [RegionTable.forInvocation, show next.regions = _ from plays.regions, List.filter_append,
      own, List.flatMap_append, ← tells.regions]
    rfl
  asking := by
    have none : new.filter (fun turn => !turn.call.isHook) = [] :=
      List.filter_eq_nil_iff.mpr fun turn member => by simp [(plays.named turn member).1]
    rw [List.filter_append, none, List.append_nil, tells.asking]
  named turn member hooked := by
    rcases List.mem_append.mp member with early | late
    · exact tells.named turn early hooked
    · obtain ⟨slot, present, same⟩ := List.mem_map.mp (plays.named turn late).2
      exact same ▸ listed slot present
  enacts attachment member := by
    obtain ⟨last, enacts, held⟩ := tells.enacts attachment member
    have before := enacts.mono heard
    rw [Turn.hooksOf, List.filter_append]
    by_cases seated : attachment.name ∈ running.slots.map (·.name)
    · -- The slot of the matcher is the only one of its name, before and after.
      obtain ⟨slot, present, same⟩ := List.mem_map.mp seated
      obtain ⟨found, stays, named, onward⟩ := plays.enacts slot present
      rw [same, held running rfl slot present same] at onward
      refine ⟨found.matcher, before.append onward, fun running' here other there named' => ?_⟩
      rw [kept running' here] at there
      have names : (left.map (·.name)).Nodup := by
        rw [show left.map (·.name) = _ from plays.names]
        exact distinct
      have equal := List.inj_on_of_nodup_map names there stays
        (named'.trans (same.symm.trans named.symm))
      rw [equal]
    · have nothing : Turn.hooksOf attachment.name new = [] :=
        Turn.hooksOf_eq_nil fun turn taken same => seated (same ▸ (plays.named turn taken).2)
      rw [← Turn.hooksOf, ← Turn.hooksOf, nothing, List.append_nil]
      refine ⟨last, before, fun running' here other there named => ?_⟩
      rw [kept running' here] at there
      have listed : attachment.name ∈ left.map (·.name) := List.mem_map.mpr ⟨other, there, named⟩
      rw [show left.map (·.name) = _ from plays.names] at listed
      exact absurd listed seated
  within := tells.within.append within

/-- A row that is pushed is told by the turns for the line that it completes. -/
theorem Tells.push (tells : playbill.Tells life journal table (some running) turns)
    (fits : playbill.roster.Fits running.slots) {names : List String}
    (mirrors : life.Mirrors names running)
    (listed : ∀ name ∈ names, name ∈ playbill.attachments.map (·.name))
    (row : String) (wraps : Bool) :
    ∃ told, playbill.Tells (life.moved (.pushRow playbill.id row wraps))
      (journal ++ (running.push playbill.id playbill.limits table row wraps).2.2)
      (running.push playbill.id playbill.limits table row wraps).2.1
      (some (running.push playbill.id playbill.limits table row wraps).1) told := by
  -- The row completes one line at most, whose turns come behind all earlier ones.
  let grown : Running := { running with
    buffer := (running.buffer.push row wraps).2
    rows := running.rows.push row }
  let moved := life.moved (.pushRow playbill.id row wraps)
  have heard : grown.rows.toList <+: moved.rows.map (·.1) := by
    simp only [grown, moved, Life.moved, mirrors.rows, Life.received]
    simp
  have still : playbill.roster.Fits grown.slots := fits
  obtain ⟨opens, begun⟩ := mirrors.inStep.opening_push row wraps
  obtain ⟨⟨new, plays, within⟩, _⟩ := Running.deliverIfAny_plays playbill.id playbill.limits table
    heard still (running.buffer.push row wraps).1 opens begun
  have frame : grown.Frames (fun _ => True) playbill.id table
      (grown.deliverIfAny playbill.id playbill.limits table (running.buffer.push row wraps).1) :=
    Running.deliverIfAny_frames fun _ _ _ _ _ _ => trivial
  have opening : (running.buffer.push row wraps).2.opening =
      (running.push playbill.id playbill.limits table row wraps).1.buffer.opening := by
    rw [Running.push_eq, frame.buffer]
  refine ⟨turns ++ new, tells.goesOn (fun slot member => ?_) fits.distinct ?_ plays ?_ ?_⟩
  · exact listed slot.name (mirrors.names ▸ List.mem_map_of_mem member)
  · simp only [Life.moved, List.map_append]
    exact List.prefix_append _ _
  · rintro running' ⟨⟩
    rfl
  · rw [opening] at within
    exact within

/-- An invocation that is completed is told by all remaining turns. -/
theorem Tells.complete (tells : playbill.Tells life journal table (some running) turns)
    (fits : playbill.roster.Fits running.slots) {names : List String}
    (mirrors : life.Mirrors names running)
    (listed : ∀ name ∈ names, name ∈ playbill.attachments.map (·.name))
    (exitCode : Int) (totalRows : Nat) :
    ∃ told, playbill.Tells (life.moved (.finish playbill.id exitCode totalRows))
      (journal ++ (running.complete playbill.id playbill.limits table exitCode totalRows).2)
      (running.complete playbill.id playbill.limits table exitCode totalRows).1 none told := by
  -- What was kept for the waiting is replayed, and its turns come behind all earlier ones.
  have same : running.rows.toList = life.rows.map (·.1) := congrArg Array.toList mirrors.rows
  have heard : running.rows.toList <+: life.rows.map (·.1) := same ▸ List.prefix_refl _
  obtain ⟨rising, before⟩ := LineBuffer.assemble_rising life.rows
  -- The lines that were kept are those that the rows make, the last one included.
  have retained : running.hasWaiting = true →
      (running.lines.toList ++ running.buffer.flush.1.toList).Pairwise
        (·.startRow < ·.startRow) := by
    intro waits
    rw [mirrors.complete waits, mirrors.buffer]
    refine List.pairwise_append.mpr ⟨rising, ?_, fun line member last held => ?_⟩
    · cases life.assembled.2.flush.1 with
      | none => exact List.Pairwise.nil
      | some line => exact List.pairwise_singleton _ _
    · rw [LineBuffer.opening_flush (Option.mem_toList.mp held)]
      exact before line member
  obtain ⟨left, new, plays, within⟩ := Running.complete_plays playbill.id playbill.limits table
    heard fits retained exitCode totalRows
  refine ⟨turns ++ new, tells.goesOn (fun slot member => ?_) fits.distinct (List.prefix_refl _)
    plays (fun running' present => nomatch present) within⟩
  exact listed slot.name (mirrors.names ▸ List.mem_map_of_mem member)

/-- Whatever is done next is told by further turns, if it evicts nothing. -/
theorem Tells.perform {tracker : Tracker} (bounded : tracker.Bounded)
    (issued : playbill.id.number < tracker.nextId) (limited : tracker.limits = playbill.limits)
    {names : List String} (shown : life.Shown names (tracker.running? playbill.id))
    (listed : ∀ name ∈ names, name ∈ playbill.attachments.map (·.name))
    (fits : ∀ running, tracker.running? playbill.id = some running →
      playbill.roster.Fits running.slots)
    (tells : playbill.Tells life journal tracker.table (tracker.running? playbill.id) turns)
    {operation : Operation} (keeps : operation.evicts = false) :
    ∃ told, playbill.Tells (life.advance playbill.id operation)
      (journal ++ (tracker.perform operation).2.2) (tracker.perform operation).2.1.table
      ((tracker.perform operation).2.1.running? playbill.id) told := by
  -- Only work on the invocation itself tells more of it.
  by_cases targeted : operation.target? = some playbill.id
  · cases present : tracker.running? playbill.id with
    | none =>
      -- Nothing happens to an invocation that has ended.
      rw [present] at shown tells
      cases shown with
      | released ended =>
        rw [Tracker.perform_gone targeted present, Life.advance_ended ended]
        exact ⟨turns, tells.still rfl rfl rfl (.inl present)⟩
    | some running =>
      rw [present] at shown tells
      obtain ⟨still, mirrors⟩ := shown
      rw [Life.advance_running targeted still]
      cases operation with
      | pushRow other row wraps =>
        cases targeted
        rw [Tracker.perform_pushRow present, limited]
        dsimp only
        rw [Tracker.running?_update_self present]
        exact tells.push (fits running present) mirrors listed row wraps
      | finish other exitCode totalRows =>
        cases targeted
        rw [Tracker.perform_finish present, limited]
        have released : (tracker.release playbill.id).running? playbill.id = none :=
          Tracker.running?_release_self
        exact released.symm ▸
          tells.complete (fits running present) mirrors listed exitCode totalRows
      | abandon other =>
        cases targeted
        rw [Tracker.perform_abandon present]
        dsimp only
        rw [Tracker.running?_release_self]
        exact ⟨turns, tells.still rfl rfl rfl (.inr rfl)⟩
      | begin invocation => cases targeted
      | evict region => cases targeted
      | evictInvocation other => cases targeted
  · have elsewhere := Tracker.addressee?_ne issued targeted
    obtain ⟨_, created, same, foreign⟩ := Tracker.grows_elsewhere keeps elsewhere
    rw [Life.advance_elsewhere targeted]
    refine ⟨turns, tells.still rfl
      (Journal.callsIn_eq_nil (Tracker.calls_perform_elsewhere elsewhere)) ?_
      (.inl (Tracker.running?_perform_elsewhere bounded elsewhere))⟩
    -- Only regions of other invocations are added.
    have none : created.filter (·.invocation == playbill.id) = [] :=
      List.filter_eq_nil_iff.mpr fun region member => by
        simpa [Region.isOf] using (foreign region member).1
    rw [RegionTable.forInvocation, same, List.filter_append, none, List.append_nil]
    rfl

end Playbill

end Annotator

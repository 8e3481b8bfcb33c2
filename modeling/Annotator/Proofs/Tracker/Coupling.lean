import Annotator.Proofs.Hook.Coupling
import Annotator.Proofs.Tracker.Twin

/-! Coupled slots are called alike and leave coupled tables, step by step and slot by slot. -/

namespace Annotator

namespace Call

/-- A call as it would be made for another invocation. -/
def readdressed (id : InvocationId) : Call → Call
  -- Only views name the invocation.
  | .line view taken => .line { view with invocation := id } taken
  | .finish view totalRows => .finish { view with invocation := id } totalRows
  | call => call

end Call

namespace Journal

/-- The calls for an invocation with the matchers called, as if it were the first invocation. -/
def requests (journal : Journal) (invocation : InvocationId) : List (String × Call) :=
  -- Verdicts may mention numbers.
  journal.filterMap fun entry =>
    match entry with
    | .called name id call _ =>
      if id = invocation then some (name, call.readdressed .first) else none
    | _ => none

/-- Requests are told one journal after the other. -/
@[simp] theorem requests_append (early late : Journal) (invocation : InvocationId) :
    Journal.requests (early ++ late) invocation =
      Journal.requests early invocation ++ Journal.requests late invocation :=
  -- Entries are selected one by one.
  List.filterMap_append

/-- A call is a request to the matcher called. -/
theorem requests_called (name : String) (id : InvocationId) (call : Call) (verdict : Verdict)
    (rest : Journal) :
    Journal.requests (.called name id call verdict :: rest) id =
      (name, call.readdressed .first) :: Journal.requests rest id := by
  -- The call is addressed to the invocation.
  simp [requests]

/-- Notes tell of no request. -/
@[simp] theorem requests_notes (notes : List Note) (invocation : InvocationId) :
    Journal.requests (notes.map .noted) invocation = [] := by
  -- Notes are no calls.
  rw [requests, List.filterMap_map]
  exact List.filterMap_eq_nil_iff.mpr fun note _ => rfl

/-- What happens around a hook call is one request. -/
theorem requests_hookJournal {id invocation : InvocationId} (same : id = invocation)
    (name hook : String) (call : Call) (verdict : Verdict) (notes : List Note) :
    Journal.requests (hookJournal name id hook call verdict notes) invocation =
      [(name, call.readdressed .first)] := by
  -- Of what a hook leaves, the call is the only one, and notes and notices are none.
  subst same
  unfold hookJournal
  rw [List.cons_append, requests_called, requests_append, requests_notes]
  cases verdict <;> rfl

/-- A journal without calls for an invocation has no request for it. -/
theorem requests_of_callsOf {journal : Journal} {invocation : InvocationId}
    (quiet : ∀ matcher, journal.callsOf matcher invocation = []) :
    journal.requests invocation = [] := by
  -- A call of the invocation would be one of its matcher.
  refine List.filterMap_eq_nil_iff.mpr fun entry member => ?_
  cases entry with
  | called name id call verdict =>
    have silent := List.filterMap_eq_nil_iff.mp (quiet name) _ member
    simp only [true_and, ite_eq_right_iff, reduceCtorEq, imp_false] at silent
    exact if_neg silent
  | noted note => rfl
  | noticed notice => rfl

end Journal

/-- Slots that have come equally far, one by one, wait alike. -/
theorem Slot.any_waiting_congr {related : Slot → Slot → Prop}
    (status : ∀ slot other, related slot other → slot.status = other.status)
    {slots others : List Slot} (same : slots.Forall₂ related others) :
    slots.any (·.status == .waiting) = others.any (·.status == .waiting) := by
  -- Induction on the slots, which have the same status one by one.
  induction same with
  | nil => rfl
  | cons equal _ ih => rw [List.any_cons, List.any_cons, status _ _ equal, ih]

namespace Coupling

/-- Two slots are coupled when they have come equally far with coupled matchers. -/
structure Slots (coupling : Coupling) (pairing : Pairing) (slot other : Slot) : Prop where
  /-- The names are the same. -/
  name : slot.name = other.name
  /-- The policies are the same. -/
  finishPolicy : slot.finishPolicy = other.finishPolicy
  /-- The slots have come equally far. -/
  status : slot.status = other.status
  /-- The matchers are coupled. -/
  matcher : coupling.Matchers pairing slot.matcher other.matcher

/-- Two stages are coupled when they show the same rows where that matters. -/
structure Stages (coupling : Coupling) (sameRows : Prop) (stage other : Stage) : Prop where
  /-- Among others the stage is that of the host. -/
  host : stage.id = coupling.host
  /-- By itself it is that of the first invocation. -/
  first : other.id = .first
  /-- The limits are the same. -/
  limits : stage.limits = other.limits
  /-- The rows are the same where programs may refer to them. -/
  rows : sameRows → stage.rows = other.rows

/-- What the matcher of a name makes for the host is its own. -/
def Owns (coupling : Coupling) (own : Region → Bool) (name : String) : Prop :=
  -- Own regions may be all those of the host or those of one matcher.
  ∀ region : Region, region.invocation = coupling.host → region.matcher = name → own region = true

/-- Steps on two slots leave what is coupled, after the same requests if they are in step. -/
structure Steps (coupling : Coupling) (pairing : Pairing) (limits : Limits)
    (own : Region → Bool) (result other : Slot × RegionTable × Journal) : Prop where
  /-- The slots are coupled. -/
  slot : coupling.Slots pairing result.1 other.1
  /-- The tables are coupled. -/
  table : coupling.Tables pairing limits own result.2.1 other.2.1
  /-- The requests are the same. -/
  requests : coupling.inStep →
    Journal.requests result.2.2 coupling.host = Journal.requests other.2.2 .first

variable {coupling : Coupling} {pairing later : Pairing} {own : Region → Bool} {sameRows : Prop}
  {stage otherStage : Stage} {slot other : Slot} {table otherTable : RegionTable}

/-- Slots stay coupled when more numbers are paired. -/
theorem Slots.mono (within : pairing.Within later) (same : coupling.Slots pairing slot other) :
    coupling.Slots later slot other :=
  -- Only the matchers refer to the pairing.
  ⟨same.name, same.finishPolicy, same.status, same.matcher.mono within⟩

/-- Stages are coupled wherever less is asked of them. -/
theorem Stages.weaken {fewer : Prop} (stages : coupling.Stages sameRows stage otherStage)
    (weaker : fewer → sameRows) : coupling.Stages fewer stage otherStage :=
  -- Only the rows depend on the condition.
  ⟨stages.host, stages.first, stages.limits, fun few => stages.rows (weaker few)⟩

/-- Events of matchers of one name are coupled on coupled stages. -/
theorem Stages.scenes {name : String} (stages : coupling.Stages sameRows stage otherStage)
    (owns : coupling.Owns own name) (line : Option LogicalLine) :
    coupling.Scenes own sameRows (stage.scene name line) (otherStage.scene name line) :=
  -- A scene is the stage with a name and a line.
  ⟨stages.host, stages.first, rfl, stages.limits, rfl, stages.rows, owns⟩

/-- Doing nothing on both sides leaves what is coupled. -/
theorem Steps.refl {limits : Limits} (same : coupling.Slots pairing slot other)
    (tables : coupling.Tables pairing limits own table otherTable) :
    coupling.Steps pairing limits own (slot, table, []) (other, otherTable, []) :=
  -- Nothing was called on either side.
  ⟨same, tables, fun _ => rfl⟩

/-- A step that follows one on either side makes its requests behind those of the first. -/
theorem Steps.trans {limits : Limits}
    {first second otherFirst otherSecond : Slot × RegionTable × Journal}
    (early : coupling.Steps pairing limits own first otherFirst)
    (late : coupling.Steps later limits own second otherSecond) :
    coupling.Steps later limits own (second.1, second.2.1, first.2.2 ++ second.2.2)
      (otherSecond.1, otherSecond.2.1, otherFirst.2.2 ++ otherSecond.2.2) := by
  -- The calls of the second step come behind those of the first.
  refine ⟨late.slot, late.table, fun step => ?_⟩
  rw [Journal.requests_append, Journal.requests_append, early.requests step, late.requests step]

/-- Delivering a line to coupled slots leaves what is coupled. -/
theorem Slots.deliver (same : coupling.Slots pairing slot other)
    (stages : coupling.Stages coupling.inStep stage otherStage)
    (owns : coupling.Owns own slot.name)
    (tables : coupling.Tables pairing stage.limits own table otherTable) (line : LogicalLine) :
    ∃ later, pairing.Within later ∧ coupling.Steps later stage.limits own
      (slot.deliver stage table line) (other.deliver otherStage otherTable line) := by
  -- Both slots are active or neither is, and what is not active takes no line.
  by_cases active : slot.status = .active
  · rw [Slot.deliver_of_active active, Slot.deliver_of_active (same.status ▸ active), ← same.name]
    obtain ⟨later, within, handled⟩ :=
      same.matcher.takeLine (stages.scenes owns (some line)) tables line
    refine ⟨later, within, ⟨rfl, same.finishPolicy, handled.answer.afterLine,
      handled.matcher⟩, handled.table, fun step => ?_⟩
    rw [Journal.requests_hookJournal stages.host, Journal.requests_hookJournal stages.first]
    simp only [Call.readdressed, Scene.view, Stage.scene, stages.rows step]
  · rw [Slot.deliver_of_not_active active, Slot.deliver_of_not_active (same.status ▸ active)]
    exact ⟨pairing, .refl pairing, .refl same tables⟩

/-- Delivering lines to coupled slots leaves what is coupled. -/
theorem Slots.deliverLines (same : coupling.Slots pairing slot other)
    (stages : coupling.Stages coupling.inStep stage otherStage)
    (owns : coupling.Owns own slot.name)
    (tables : coupling.Tables pairing stage.limits own table otherTable)
    (lines : List LogicalLine) :
    ∃ later, pairing.Within later ∧ coupling.Steps later stage.limits own
      (slot.deliverLines stage table lines) (other.deliverLines otherStage otherTable lines) := by
  -- Induction on the lines, as each pairs more numbers and unpairs none.
  induction lines generalizing pairing slot other table otherTable with
  | nil => exact ⟨pairing, .refl pairing, .refl same tables⟩
  | cons line rest ih =>
    obtain ⟨middle, within, first⟩ := same.deliver stages owns tables line
    have kept := (Slot.deliver_keeps stage slot table line).1
    obtain ⟨later, beyond, second⟩ := ih first.slot (kept ▸ owns) first.table
    exact ⟨later, within.trans beyond, first.trans second⟩

/-- Starting coupled matchers leaves coupled slots, which have come equally far. -/
theorem Slots.start (same : coupling.Slots pairing slot other)
    {invocation otherInvocation : Invocation}
    (starts : coupling.starts invocation otherInvocation) :
    coupling.Slots pairing
      { slot with
        matcher := (slot.matcher.start invocation).matcher
        status := .afterStart (slot.matcher.start invocation).answer }
      { other with
        matcher := (other.matcher.start otherInvocation).matcher
        status := .afterStart (other.matcher.start otherInvocation).answer } := by
  -- The answers agree, so both slots go on in the same status.
  obtain ⟨matchers, answer⟩ := same.matcher.start starts
  exact ⟨same.name, same.finishPolicy, answer.afterStart, matchers⟩

/-- Catching up on the same lines leaves what is coupled. -/
theorem Slots.catchUp (same : coupling.Slots pairing slot other)
    (stages : coupling.Stages coupling.inStep stage otherStage)
    (owns : coupling.Owns own slot.name)
    (tables : coupling.Tables pairing stage.limits own table otherTable)
    {invocation otherInvocation : Invocation}
    (starts : coupling.starts invocation otherInvocation) (lines : List LogicalLine) :
    ∃ later, pairing.Within later ∧ coupling.Steps later stage.limits own
      (slot.catchUp stage invocation table lines)
      (other.catchUp otherStage otherInvocation otherTable lines) := by
  -- Either both slots wait or neither does.
  by_cases waiting : slot.status = .waiting
  · rw [Slot.catchUp_of_waiting waiting, Slot.catchUp_of_waiting (same.status ▸ waiting)]
    -- Starting touches no region, and what follows is an ordinary delivery.
    have started := same.start starts
    obtain ⟨later, within, taken⟩ := started.deliverLines stages owns tables lines
    refine ⟨later, within, taken.slot, taken.table, fun step => ?_⟩
    rw [Journal.requests_append, Journal.requests_append, taken.requests step,
      Journal.requests_hookJournal stages.host, Journal.requests_hookJournal stages.first,
      same.name, coupling.starts_eq step starts]
  · rw [Slot.catchUp_of_not_waiting waiting,
      Slot.catchUp_of_not_waiting (same.status ▸ waiting)]
    exact ⟨pairing, .refl pairing, .refl same tables⟩

/-- Finishing coupled slots over the same rows leaves what is coupled. -/
theorem Slots.finish (same : coupling.Slots pairing slot other)
    (stages : coupling.Stages True stage otherStage) (owns : coupling.Owns own slot.name)
    (tables : coupling.Tables pairing stage.limits own table otherTable) (totalRows : Nat) :
    ∃ later, pairing.Within later ∧ coupling.Steps later stage.limits own
      (slot.finish stage table totalRows) (other.finish otherStage otherTable totalRows) := by
  -- Both slots want their last call or neither does.
  have wants := Slot.wantsFinish_congr same.status same.finishPolicy
  cases wanted : slot.wantsFinish with
  | false =>
    rw [Slot.finish_of_not_wanting wanted, Slot.finish_of_not_wanting (wants.symm.trans wanted)]
    exact ⟨pairing, .refl pairing, .refl same tables⟩
  | true =>
    rw [Slot.finish_of_wanting wanted, Slot.finish_of_wanting (wants.symm.trans wanted),
      ← same.name]
    obtain ⟨later, within, handled⟩ :=
      same.matcher.finish (stages.scenes owns none) tables totalRows
    refine ⟨later, within, ⟨rfl, same.finishPolicy, ?_, handled.matcher⟩, handled.table,
      fun _ => ?_⟩
    · dsimp only
      rw [same.status]
      exact handled.answer.afterFinish other.status
    · rw [Journal.requests_hookJournal stages.host, Journal.requests_hookJournal stages.first]
      simp only [Call.readdressed, Scene.view, Stage.scene, stages.rows trivial]

/-- Completing coupled slots over the same rows leaves what is coupled. -/
theorem Slots.complete (same : coupling.Slots pairing slot other)
    (stages : coupling.Stages True stage otherStage) (owns : coupling.Owns own slot.name)
    (tables : coupling.Tables pairing stage.limits own table otherTable)
    {invocation otherInvocation : Invocation}
    (starts : coupling.starts invocation otherInvocation) (lines : List LogicalLine)
    (totalRows : Nat) :
    ∃ later, pairing.Within later ∧ coupling.Steps later stage.limits own
      (slot.complete stage invocation lines totalRows table)
      (other.complete otherStage otherInvocation lines totalRows otherTable) := by
  -- The slots catch up with the lines before they finish.
  obtain ⟨middle, within, first⟩ :=
    same.catchUp (stages.weaken fun _ => trivial) owns tables starts lines
  have kept := (Slot.catchUp_keeps stage invocation slot table lines).1
  obtain ⟨later, beyond, second⟩ := first.slot.finish stages (kept ▸ owns) first.table totalRows
  exact ⟨later, within.trans beyond, first.trans second⟩

end Coupling

end Annotator

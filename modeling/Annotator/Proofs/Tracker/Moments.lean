import Annotator.Proofs.Tracker.Attach

/-! Every call of an invocation has its moment, and moments are compared like words. -/

namespace Annotator

/-- A call of a matcher or of its factory, with the regions that were made in it. -/
structure Turn where
  /-- The name of the matcher. -/
  matcher : String
  /-- The call. -/
  call : Call
  /-- How it was answered. -/
  verdict : Verdict
  /-- The regions that were made. -/
  made : List Region := []
  deriving DecidableEq

namespace Turn

/-- What the journal tells of a turn. -/
def told (turn : Turn) : String × Call × Verdict :=
  -- Regions are found in the table.
  (turn.matcher, turn.call, turn.verdict)

/-- A turn is a hook call of the matcher of a name. -/
def isHookOf (name : String) (turn : Turn) : Bool :=
  -- Calls of the factory are left out.
  turn.matcher == name && turn.call.isHook

/-- The turns of the matcher of a name, without those of its factory. -/
def hooksOf (name : String) (turns : List Turn) : List Turn :=
  -- Their order is kept.
  turns.filter (isHookOf name)

/-- A turn is a hook of a matcher when the matcher is called by one. -/
theorem isHookOf_iff {name : String} {turn : Turn} :
    turn.isHookOf name = true ↔ turn.matcher = name ∧ turn.call.isHook = true := by
  -- The two tests are made in one expression.
  rw [isHookOf, Bool.and_eq_true, beq_iff_eq]

/-- A matcher takes none of the turns that are taken under other names. -/
theorem hooksOf_eq_nil {name : String} {turns : List Turn}
    (apart : ∀ turn ∈ turns, turn.matcher ≠ name) : hooksOf name turns = [] := by
  -- No turn is of the matcher.
  refine List.filter_eq_nil_iff.mpr fun turn member => ?_
  simp [isHookOf, apart turn member]

end Turn

namespace Journal

/-- All calls that a journal records for an invocation, each with its matcher and its verdict. -/
def callsIn (journal : Journal) (invocation : InvocationId) : List (String × Call × Verdict) :=
  -- They are told in the order in which they were made.
  journal.filterMap fun entry =>
    match entry with
    | .called name id call verdict => if id = invocation then some (name, call, verdict) else none
    | _ => none

variable {id : InvocationId}

/-- The calls of two journals come one behind the other. -/
@[simp] theorem callsIn_append (early late : Journal) :
    Journal.callsIn (early ++ late) id = Journal.callsIn early id ++ Journal.callsIn late id :=
  -- Entries are selected one by one.
  List.filterMap_append

/-- Notes are no calls. -/
@[simp] theorem callsIn_notes (notes : List Note) :
    Journal.callsIn (notes.map .noted) id = [] := by
  -- Entries are selected one by one.
  rw [callsIn, List.filterMap_map]
  exact List.filterMap_eq_nil_iff.mpr fun note _ => rfl

/-- A call of the invocation comes first. -/
theorem callsIn_called (name : String) (call : Call) (verdict : Verdict) (rest : Journal) :
    Journal.callsIn (.called name id call verdict :: rest) id =
      (name, call, verdict) :: Journal.callsIn rest id := by
  -- The first entry is selected.
  simp [callsIn]

/-- What happens around a hook call tells of that call alone. -/
theorem callsIn_hookJournal (name hook : String) (call : Call) (verdict : Verdict)
    (notes : List Note) :
    Journal.callsIn (hookJournal name id hook call verdict notes) id = [(name, call, verdict)] := by
  -- The notice of a failure is no call either.
  unfold hookJournal
  rw [List.cons_append, callsIn_called, callsIn_append, callsIn_notes]
  cases verdict <;> simp [callsIn]

/-- The calls of a matcher are those among all calls of the invocation that bear its name. -/
theorem callsOf_eq_filter (journal : Journal) (name : String) :
    Journal.callsOf journal name id =
      ((Journal.callsIn journal id).filter fun told => told.1 == name).map (·.2) := by
  -- Induction on the journal: a call counts if it is of the invocation and of the matcher.
  induction journal with
  | nil => rfl
  | cons entry rest ih =>
    cases entry with
    | noted note => exact ih
    | noticed notice => exact ih
    | called matcher other call verdict =>
      rw [callsOf_called, ih]
      by_cases same : other = id
      · subst same
        rw [callsIn_called, List.filter_cons]
        by_cases named : matcher = name <;> simp [named]
      · simp [callsIn, same]

/-- An invocation none of whose matchers is called has no calls. -/
theorem callsIn_eq_nil {journal : Journal}
    (quiet : ∀ name, Journal.callsOf journal name id = []) : Journal.callsIn journal id = [] := by
  -- Every call is one of some matcher.
  refine List.eq_nil_iff_forall_not_mem.mpr fun told member => ?_
  have none := quiet told.1
  rw [callsOf_eq_filter] at none
  have present : told.2 ∈ ((Journal.callsIn journal id).filter fun other => other.1 == told.1).map
      (·.2) := List.mem_map.mpr ⟨told, List.mem_filter.mpr ⟨member, beq_self_eq_true _⟩, rfl⟩
  rw [none] at present
  cases present

/-- The hook calls of a matcher are those of its turns. -/
theorem hooksOf_turns {journal : Journal} {turns : List Turn}
    (told : Journal.callsIn journal id = turns.map Turn.told) (name : String) :
    Journal.hooksOf journal name id =
      (Turn.hooksOf name turns).map fun turn => (turn.call, turn.verdict) := by
  -- The calls are those of the turns, and they are selected in the same way.
  rw [hooksOf, callsOf_eq_filter, told, Turn.hooksOf]
  simp only [List.filter_map, List.map_map, List.filter_filter]
  refine congrArg (List.map _) (List.filter_congr fun turn _ => ?_)
  exact Bool.and_comm _ _

end Journal

/-- When something happens to an invocation, compared by phase, then by each of the numbers. -/
structure Moment where
  /-- Asking, starting, taking lines and completing are the phases. -/
  phase : Nat
  /-- What is compared first within a phase. -/
  first : Nat
  /-- What is compared next. -/
  second : Nat
  /-- What is compared last. -/
  third : Nat
  deriving DecidableEq, Repr

namespace Moment

instance : LT Moment where
  lt early late := early.phase < late.phase ∨ early.phase = late.phase ∧
    (early.first < late.first ∨ early.first = late.first ∧
      (early.second < late.second ∨ early.second = late.second ∧ early.third < late.third))

instance : LE Moment where
  le early late := ¬ late < early

variable {first second third : Moment}

/-- Moments are compared part by part. -/
theorem lt_iff : first < second ↔ first.phase < second.phase ∨ first.phase = second.phase ∧
    (first.first < second.first ∨ first.first = second.first ∧
      (first.second < second.second ∨
        first.second = second.second ∧ first.third < second.third)) :=
  -- This is the order on moments.
  Iff.rfl

/-- A moment is not later than another if the other is not earlier. -/
theorem le_iff : first ≤ second ↔ ¬ second < first :=
  -- This is the order on moments.
  Iff.rfl

/-- The order of two moments can be computed. -/
instance decidableLT (early late : Moment) : Decidable (early < late) :=
  -- All alternatives compare natural numbers.
  inferInstanceAs (Decidable (_ ∨ _))

/-- No moment is earlier than itself. -/
theorem le_refl (moment : Moment) : moment ≤ moment := by
  -- No part is smaller than itself.
  simp only [le_iff, lt_iff]
  omega

/-- What is earlier than a moment is earlier than all later ones. -/
theorem lt_of_lt_of_le (early : first < second) (late : second ≤ third) : first < third := by
  -- The parts are numbers, and the first at which two moments differ decides.
  simp only [le_iff, lt_iff] at *
  omega

/-- The order on moments is transitive. -/
theorem le_trans (early : first ≤ second) (late : second ≤ third) : first ≤ third := by
  -- The parts are numbers, and the first at which two moments differ decides.
  simp only [le_iff, lt_iff] at *
  omega

/-- Any moment behind a moment is behind the one that follows at once, or is that one. -/
def next (moment : Moment) : Moment :=
  -- No number lies between.
  { moment with third := moment.third + 1 }

/-- A moment is earlier than the next one. -/
theorem lt_next (moment : Moment) : moment < moment.next := by
  -- Only the last part goes up.
  simp [lt_iff, next]

/-- A moment is not later than the next one. -/
theorem le_next (moment : Moment) : moment ≤ moment.next := by
  -- Only the last part goes up.
  simp only [le_iff, lt_iff, next]
  omega

end Moment

/-- The order in which matchers were registered, and which of them wait for completion. -/
structure Roster where
  /-- The place of a matcher in the order of registration. -/
  position : String → Nat
  /-- Whether it waits. -/
  waits : String → Bool

namespace Registry

/-- The roster of a registry. -/
def roster (registry : Registry) (deferBuffered : Bool) : Roster where
  position name := registry.names.idxOf name
  waits name := deferBuffered &&
    (registry.factories.find? (·.name == name)).any fun factory => !factory.fast

end Registry

namespace Roster

/-- When a matcher is started. -/
def startMoment (roster : Roster) (name : String) : Moment :=
  -- A matcher that waits is started once the invocation completes.
  if roster.waits name then ⟨3, roster.position name, 0, 0⟩ else ⟨1, roster.position name, 0, 0⟩

/-- When a matcher is given the line that begins with a row. -/
def lineMoment (roster : Roster) (name : String) (row : Nat) : Moment :=
  -- A line goes to all matchers that do not wait before the next line goes to any of them.
  if roster.waits name then ⟨3, roster.position name, 1, row⟩ else ⟨2, row, roster.position name, 0⟩

/-- When a matcher is finished. -/
def finishMoment (roster : Roster) (name : String) : Moment :=
  -- Nothing happens to the matcher any more.
  ⟨3, roster.position name, 2, 0⟩

end Roster

/-- When a turn is taken. -/
def Turn.moment (roster : Roster) (turn : Turn) : Moment :=
  -- All factories are asked before any matcher is started.
  match turn.call with
  | .accepts .. => ⟨0, roster.position turn.matcher, 0, 0⟩
  | .create _ => ⟨0, roster.position turn.matcher, 1, 0⟩
  | .start _ => roster.startMoment turn.matcher
  | .line _ line => roster.lineMoment turn.matcher line.startRow
  | .finish .. => roster.finishMoment turn.matcher

/-- Turns are taken one after the other, from one moment on and before another one. -/
structure Roster.Within (roster : Roster) (first last : Moment) (turns : List Turn) : Prop where
  /-- There is time between the two moments. -/
  ordered : first ≤ last
  /-- Each turn is taken before those behind it. -/
  rising : turns.Pairwise fun early late => early.moment roster < late.moment roster
  /-- No turn is taken earlier or later. -/
  inside : ∀ turn ∈ turns, first ≤ turn.moment roster ∧ turn.moment roster < last

namespace Roster.Within

variable {roster : Roster} {first middle last : Moment} {turns later : List Turn}

/-- Doing nothing takes any time. -/
theorem nothing (ordered : first ≤ last) : roster.Within first last [] :=
  -- There is no turn to place.
  ⟨ordered, List.Pairwise.nil, fun _ member => nomatch member⟩

/-- One turn is taken at its moment. -/
theorem single (turn : Turn) :
    roster.Within (turn.moment roster) (turn.moment roster).next [turn] := by
  -- The turn falls to its own moment.
  refine ⟨Moment.le_next _, List.pairwise_singleton _ _, fun other member => ?_⟩
  cases List.mem_singleton.mp member
  exact ⟨Moment.le_refl _, Moment.lt_next _⟩

/-- Turns taken within some time are taken within any longer time. -/
theorem widen (within : roster.Within first last turns) {before behind : Moment}
    (early : before ≤ first) (late : last ≤ behind) : roster.Within before behind turns :=
  -- The turns stay where they are.
  ⟨Moment.le_trans (Moment.le_trans early within.ordered) late, within.rising, fun turn member =>
    ⟨Moment.le_trans early (within.inside turn member).1,
      Moment.lt_of_lt_of_le (within.inside turn member).2 late⟩⟩

/-- Turns that begin when the others are over are taken behind them. -/
theorem append (within : roster.Within first middle turns)
    (onward : roster.Within middle last later) : roster.Within first last (turns ++ later) := by
  -- Turns of the first stretch come in front of the middle, and the others behind it.
  have before := within.widen (Moment.le_refl first) onward.ordered
  have behind := onward.widen within.ordered (Moment.le_refl last)
  refine ⟨before.ordered, ?_, fun turn member => ?_⟩
  · refine List.pairwise_append.mpr ⟨within.rising, onward.rising, ?_⟩
    intro turn early other late
    exact Moment.lt_of_lt_of_le (within.inside turn early).2 (onward.inside other late).1
  · rcases List.mem_append.mp member with early | late
    · exact before.inside turn early
    · exact behind.inside turn late

end Roster.Within

end Annotator

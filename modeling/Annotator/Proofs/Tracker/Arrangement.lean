import Annotator.Proofs.Tracker.Moments

/-! The order of turns decides the order of the regions that are made in them. -/

namespace Annotator

namespace Turn

/-- The line that a matcher is given as soon as the line is completed. -/
def promptLine? (roster : Roster) (turn : Turn) : Option LogicalLine :=
  -- A matcher that waits is given its lines late.
  match turn.call with
  | .line _ line => if roster.waits turn.matcher then none else some line
  | _ => none

/-- A turn is taken before its invocation is completed. -/
def isEarly (roster : Roster) (turn : Turn) : Bool :=
  -- Completion is the last phase.
  (turn.moment roster).phase ≤ 2

/-- A turn is a line or the end of the invocation for a matcher. -/
def IsWork (turn : Turn) : Prop :=
  -- Only then regions are made.
  (∃ view line, turn.call = .line view line) ∨ ∃ view rows, turn.call = .finish view rows

variable {roster : Roster} {turn : Turn}

/-- Among lines and ends, the prompt lines are those that come early. -/
theorem IsWork.isEarly (work : turn.IsWork) :
    (turn.promptLine? roster).isSome = turn.isEarly roster := by
  -- A line is prompt for a matcher that does not wait, and the end is never.
  unfold promptLine? Turn.isEarly moment
  rcases work with ⟨view, line, call⟩ | ⟨view, rows, call⟩
  · cases waits : roster.waits turn.matcher <;> simp [call, Roster.lineMoment, waits]
  · simp [call, Roster.finishMoment]

/-- Lines and ends that come late are grouped by their matchers. -/
theorem IsWork.late (work : turn.IsWork) (late : turn.isEarly roster = false) :
    (turn.moment roster).phase = 3 ∧
      (turn.moment roster).first = roster.position turn.matcher := by
  -- What comes late is a replayed line or the end, at the place of its matcher.
  unfold Turn.isEarly moment at *
  rcases work with ⟨view, line, call⟩ | ⟨view, rows, call⟩
  · rw [call] at late ⊢
    unfold Roster.lineMoment at *
    cases waits : roster.waits turn.matcher <;> simp_all
  · rw [call]
    exact ⟨rfl, rfl⟩

/-- The regions that bear the name of a matcher are those that its hooks made. -/
theorem regions_of {turns : List Turn}
    (own : ∀ turn ∈ turns, ∀ region ∈ turn.made, region.matcher = turn.matcher ∧ turn.IsWork)
    (name : String) :
    (turns.flatMap made).filter (·.matcher == name) = (hooksOf name turns).flatMap made := by
  -- Induction on the turns: those of the matcher have only its regions, and the others none of
  -- them.
  induction turns with
  | nil => rfl
  | cons turn rest ih =>
    have first := own turn List.mem_cons_self
    have later := ih fun other member => own other (List.mem_cons_of_mem _ member)
    have split : hooksOf name (turn :: rest) =
        if turn.isHookOf name then turn :: hooksOf name rest else hooksOf name rest :=
      List.filter_cons
    rw [List.flatMap_cons, List.filter_append, later, split]
    cases mine : turn.isHookOf name with
    | true =>
      have all : turn.made.filter (·.matcher == name) = turn.made :=
        List.filter_eq_self.mpr fun region member => by
          simp [(first region member).1, (isHookOf_iff.mp mine).1]
      rw [all, if_pos rfl, List.flatMap_cons]
    | false =>
      have none : turn.made.filter (·.matcher == name) = [] :=
        List.filter_eq_nil_iff.mpr fun region member same => by
          -- A turn that makes a region is a hook call.
          obtain ⟨named, work⟩ := first region member
          have hooked : turn.call.isHook = true := by
            rcases work with ⟨_, _, call⟩ | ⟨_, _, call⟩ <;> rw [call] <;> rfl
          rw [isHookOf_iff.mpr ⟨named.symm.trans (beq_iff_eq.mp same), hooked⟩] at mine
          cases mine
      rw [none, List.nil_append, if_neg Bool.false_ne_true]

end Turn

/-- A list that satisfies a condition up to some place and not behind it is cut there. -/
theorem filter_append_of_sorted {α : Type} {holds : α → Bool} {items : List α}
    (sorted : items.Pairwise fun early late => holds late = true → holds early = true) :
    items.filter holds ++ items.filter (fun item => !holds item) = items := by
  -- Induction on the items: behind the first that does not hold, none does.
  induction items with
  | nil => rfl
  | cons item rest ih =>
    obtain ⟨first, later⟩ := List.pairwise_cons.mp sorted
    cases here : holds item with
    | true => simp [here, ih later]
    | false =>
      have none : rest.filter holds = [] := List.filter_eq_nil_iff.mpr fun other member held => by
        rw [first other member held] at here
        cases here
      have all : rest.filter (fun item => !holds item) = rest := by
        refine List.filter_eq_self.mpr fun other member => ?_
        have nothing := List.filter_eq_nil_iff.mp none other member
        simpa using nothing
      simp [here, none, all]

/-- Two choices of items that differ in those with nothing to add lead to the same. -/
theorem flatMap_filter_congr {α β : Type} {items : List α} {choice other : α → Bool}
    {adds : α → List β} (differ : ∀ item ∈ items, choice item ≠ other item → adds item = []) :
    (items.filter choice).flatMap adds = (items.filter other).flatMap adds := by
  -- Induction on the items: those on which the choices differ add nothing.
  induction items with
  | nil => rfl
  | cons item rest ih =>
    have later := ih fun other member => differ other (List.mem_cons_of_mem _ member)
    have here := differ item List.mem_cons_self
    cases chosen : choice item <;> cases taken : other item <;>
      simp_all

namespace Roster

/-- The turns in which lines are given as soon as they are completed. -/
def prompt (roster : Roster) (turns : List Turn) : List Turn :=
  -- Their order is kept.
  turns.filter fun turn => (turn.promptLine? roster).isSome

/-- All other turns. -/
def others (roster : Roster) (turns : List Turn) : List Turn :=
  -- Their order is kept as well.
  turns.filter fun turn => !(turn.promptLine? roster).isSome

/-- The regions of turns are numbered line by line first, and then matcher by matcher. -/
structure Arranges (roster : Roster) (turns : List Turn) : Prop where
  /-- Each region has a larger number than those before it. -/
  ascending : (turns.flatMap Turn.made).Pairwise (·.id.number < ·.id.number)
  /-- The regions made on prompt lines come before all others. -/
  split : turns.flatMap Turn.made =
    (roster.prompt turns).flatMap Turn.made ++ (roster.others turns).flatMap Turn.made
  /-- Those on prompt lines are arranged by their lines, and on one line by their matchers. -/
  prompt : (roster.prompt turns).Pairwise fun early late =>
    ∀ line ∈ early.promptLine? roster, ∀ next ∈ late.promptLine? roster,
      line.startRow < next.startRow ∨ line.startRow = next.startRow ∧
        roster.position early.matcher < roster.position late.matcher
  /-- All others are arranged by their matchers. -/
  others : ((roster.others turns).flatMap Turn.made).Pairwise fun early late =>
    roster.position early.matcher ≤ roster.position late.matcher

variable {roster : Roster} {turns : List Turn}

/-- Prompt lines are taken line by line, and each line in the order of the matchers. -/
theorem prompt_rising
    (rising : turns.Pairwise fun early late => early.moment roster < late.moment roster) :
    (roster.prompt turns).Pairwise fun early late =>
      ∀ line ∈ early.promptLine? roster, ∀ next ∈ late.promptLine? roster,
        line.startRow < next.startRow ∨ line.startRow = next.startRow ∧
          roster.position early.matcher < roster.position late.matcher := by
  -- The moment of a prompt line is its row, and then the place of the matcher.
  have moment {turn : Turn} {line : LogicalLine} (prompt : line ∈ turn.promptLine? roster) :
      turn.moment roster = ⟨2, line.startRow, roster.position turn.matcher, 0⟩ := by
    unfold Turn.promptLine? at prompt
    unfold Turn.moment lineMoment
    cases call : turn.call <;> rw [call] at prompt <;> cases waits : roster.waits turn.matcher <;>
      simp_all
  refine (rising.filter _).imp fun {early late} less line first next second => ?_
  rw [moment first, moment second, Moment.lt_iff] at less
  dsimp only at less
  omega

/-- Turns that are taken in order arrange the regions that they make on lines and at the end. -/
theorem arranges
    (rising : turns.Pairwise fun early late => early.moment roster < late.moment roster)
    (made : ∀ turn ∈ turns, ∀ region ∈ turn.made, region.matcher = turn.matcher ∧ turn.IsWork)
    (ascending : (turns.flatMap Turn.made).Pairwise (·.id.number < ·.id.number)) :
    roster.Arranges turns := by
  -- A turn that makes regions is a prompt line exactly if it is early.
  have same : ∀ turn ∈ turns, (turn.promptLine? roster).isSome ≠ turn.isEarly roster →
      turn.made = [] := fun turn member differ =>
    List.eq_nil_iff_forall_not_mem.mpr fun region own =>
      differ (made turn member region own).2.isEarly
  have late : (roster.others turns).flatMap Turn.made =
      (turns.filter fun turn => !turn.isEarly roster).flatMap Turn.made :=
    flatMap_filter_congr fun turn member differ =>
      same turn member fun equal => differ (congrArg _ equal)
  refine ⟨ascending, ?_, prompt_rising rising, ?_⟩
  · have split : turns.filter (Turn.isEarly roster) ++
        turns.filter (fun turn => !turn.isEarly roster) = turns := by
      refine filter_append_of_sorted (rising.imp fun {first second} less soon => ?_)
      simp only [Turn.isEarly, decide_eq_true_eq, Moment.lt_iff] at soon less ⊢
      omega
    rw [late, prompt, flatMap_filter_congr same, ← List.flatMap_append, split]
  · rw [late]
    refine List.pairwise_flatMap.mpr ⟨fun turn member => ?_, ?_⟩
    · have own := made turn (List.mem_filter.mp member).1
      refine List.pairwise_of_forall_mem_list fun first one second other => ?_
      have same := (own first one).1.trans (own second other).1.symm
      exact Nat.le_of_eq (congrArg roster.position same)
    · refine List.Pairwise.imp_of_mem ?_ (rising.filter _)
      intro first second one other less region mine next theirs
      obtain ⟨member, behind⟩ := List.mem_filter.mp one
      obtain ⟨member', behind'⟩ := List.mem_filter.mp other
      obtain ⟨named, work⟩ := made first member region mine
      obtain ⟨named', work'⟩ := made second member' next theirs
      obtain ⟨phase, position⟩ := work.late (by simpa using behind)
      obtain ⟨phase', position'⟩ := work'.late (by simpa using behind')
      rw [Moment.lt_iff, phase, phase', position, position'] at less
      rw [named, named']
      omega

end Roster

end Annotator

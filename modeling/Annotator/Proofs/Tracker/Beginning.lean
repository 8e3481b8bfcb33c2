import Annotator.Proofs.Tracker.Enactment

/-! Factories are asked and matchers are started in turns, in the order of their registration. -/

namespace Annotator

namespace Call

/-- A call asks a factory whether its matcher attaches. -/
def asks : Call → Bool
  -- All other calls presuppose that it does.
  | .accepts .. => true
  | _ => false

end Call

namespace Registry

variable (id : InvocationId) (invocation : Invocation) (site : Site) (roster : Roster)

/-- Factories of some names are asked in turns that make no region. -/
structure Asked (id : InvocationId) (names : List String) (journal : Journal)
    (turns : List Turn) : Prop where
  /-- No other call is made. -/
  calls : Journal.callsIn journal id = turns.map Turn.told
  /-- Each factory is asked once whether it accepts, in order. -/
  names : (turns.filter (·.call.asks)).map (·.matcher) = names
  /-- No hook is called and no region is made. -/
  idle : ∀ turn ∈ turns, turn.call.isHook = false ∧ turn.made = []

/-- A factory is asked first, and builds its matcher then if it accepts. -/
theorem consult_turns (factory : Factory) :
    ∃ turns, Asked id [factory.name] (consult factory id invocation site).2 turns ∧
      roster.Within ⟨0, roster.position factory.name, 0, 0⟩
        ⟨0, roster.position factory.name + 1, 0, 0⟩ turns := by
  -- A factory is asked once about the command, and a second time to build if it wants it.
  generalize answer : factory.accepts site.command invocation.workingDir = accepted
  let asking : Turn :=
    { matcher := factory.name, call := .accepts site.command invocation.workingDir
      verdict := .ofWish accepted }
  have first : roster.Within (asking.moment roster) (asking.moment roster).next [asking] :=
    .single asking
  have alone : roster.Within ⟨0, roster.position factory.name, 0, 0⟩
      ⟨0, roster.position factory.name + 1, 0, 0⟩ [asking] := by
    refine first.widen (Moment.le_refl _) ?_
    simp only [asking, Turn.moment, Moment.le_iff, Moment.lt_iff, Moment.next]
    omega
  unfold consult
  cases accepted with
  | error fault =>
    exact ⟨[asking], ⟨by simp [answer, Journal.callsIn, Turn.told, asking],
      by simp [asking, Call.asks], by simp [asking, Call.isHook]⟩, alone⟩
  | ok wanted =>
    cases wanted with
    | false =>
      exact ⟨[asking], ⟨by simp [answer, Journal.callsIn, Turn.told, asking],
        by simp [asking, Call.asks], by simp [asking, Call.isHook]⟩, alone⟩
    | true =>
      -- Whatever the build leads to, both questions fall to the moment of the factory.
      have both (verdict : Verdict) :
          roster.Within ⟨0, roster.position factory.name, 0, 0⟩
            ⟨0, roster.position factory.name + 1, 0, 0⟩
            ([asking] ++ [{ matcher := factory.name, call := .create site, verdict }]) := by
        refine Roster.Within.append (first.widen (Moment.le_refl _) ?_)
          ((Roster.Within.single _).widen (Moment.le_refl _) ?_)
        · simp only [asking, Turn.moment, Moment.le_iff, Moment.lt_iff, Moment.next]
          omega
        · simp only [Turn.moment, Moment.le_iff, Moment.lt_iff, Moment.next]
          omega
      have asked (verdict : Verdict) (notes : List Note) (notices : List Notice) :
          Asked id [factory.name]
            (.called factory.name id (.accepts site.command invocation.workingDir) .wanted ::
              (.called factory.name id (.create site) verdict :: notes.map .noted ++
                notices.map .noticed))
            ([asking] ++ [{ matcher := factory.name, call := .create site, verdict }]) := by
        refine ⟨?_, by simp [asking, Call.asks], by simp [asking, Call.isHook]⟩
        have quiet : Journal.callsIn (notices.map .noticed) id = [] := by
          rw [Journal.callsIn, List.filterMap_map]
          exact List.filterMap_eq_nil_iff.mpr fun notice _ => rfl
        rw [List.cons_append, Journal.callsIn_called, Journal.callsIn_called,
          Journal.callsIn_append, Journal.callsIn_notes, quiet]
        rfl
      cases built : factory.create site with
      | mk notes result =>
        cases result with
        | error text =>
          simp only [answer]
          exact ⟨_, asked _ notes [_], both _⟩
        | ok matcher =>
          have done := asked .done notes []
          rw [List.map_nil, List.append_nil] at done
          simp only [answer]
          exact ⟨_, done, both _⟩

/-- All factories are asked one after the other. -/
theorem consultAll_turns {factories : List Factory}
    (rising : factories.Pairwise fun early late =>
      roster.position early.name < roster.position late.name)
    (low : Nat) (behind : ∀ factory ∈ factories, low ≤ roster.position factory.name) :
    ∃ turns, Asked id (factories.map (·.name)) (consultAll id invocation site factories).2
        turns ∧
      roster.Within ⟨0, low, 0, 0⟩ ⟨1, 0, 0, 0⟩ turns := by
  -- Induction on the factories, whose moments are those of their places.
  induction factories generalizing low with
  | nil =>
    refine ⟨[], ⟨rfl, rfl, by simp⟩, .nothing ?_⟩
    simp only [Moment.le_iff, Moment.lt_iff]
    omega
  | cons factory rest ih =>
    obtain ⟨first, later⟩ := List.pairwise_cons.mp rising
    obtain ⟨turns, asked, within⟩ := consult_turns id invocation site roster factory
    obtain ⟨others, askedLater, withinLater⟩ := ih later (roster.position factory.name + 1) first
    refine ⟨turns ++ others, ⟨?_, ?_, ?_⟩, (within.widen ?_ (Moment.le_refl _)).append withinLater⟩
    · rw [consultAll, List.map_append, ← asked.calls, ← askedLater.calls]
      exact Journal.callsIn_append _ _
    · rw [List.filter_append, List.map_append, asked.names, askedLater.names]
      rfl
    · intro turn member
      exact (List.mem_append.mp member).elim (asked.idle turn) (askedLater.idle turn)
    · have reached := behind factory List.mem_cons_self
      simp only [Moment.le_iff, Moment.lt_iff]
      omega

end Registry

namespace Tracker

variable {deferBuffered : Bool} {roster : Roster} (id : InvocationId) (limits : Limits)
  (invocation : Invocation)

/-- A matcher that does not wait takes one turn to be started, and any other one takes none. -/
theorem seat_turns {attachment : Attachment}
    (waits : roster.waits attachment.name = (!attachment.fast && deferBuffered)) :
    ∃ turns last, Journal.callsIn (seat deferBuffered id invocation attachment).2 id =
        turns.map Turn.told ∧
      Matcher.Enacts id limits [] attachment.name attachment.matcher turns last ∧
      (∀ slot ∈ (seat deferBuffered id invocation attachment).1, slot.matcher = last) ∧
      turns.flatMap Turn.made = [] ∧
      roster.Within ⟨1, roster.position attachment.name, 0, 0⟩
        ⟨1, roster.position attachment.name + 1, 0, 0⟩ turns := by
  -- A matcher that waits is seated without a call, and another is started at its moment.
  unfold seat
  rw [← waits]
  cases waiting : roster.waits attachment.name with
  | true =>
    refine ⟨[], attachment.matcher, rfl, .rest _, fun slot held => ?_, rfl, .nothing ?_⟩
    · cases held
      rfl
    · simp only [Moment.le_iff, Moment.lt_iff]
      omega
  | false =>
    let handled := attachment.matcher.start invocation
    let turn : Turn :=
      { matcher := attachment.name, call := .start invocation, verdict := .ofWish handled.answer }
    have single : roster.Within (turn.moment roster) (turn.moment roster).next [turn] :=
      .single turn
    have prompt : ¬ roster.waits attachment.name = true := by simp [waiting]
    have moment : turn.moment roster = ⟨1, roster.position attachment.name, 0, 0⟩ := if_neg prompt
    rw [moment] at single
    have told : (attach id invocation attachment).2 =
        hookJournal attachment.name id "on_start" (.start invocation) (.ofWish handled.answer)
          handled.notes := by
      unfold attach
      dsimp only
      split <;> rfl
    refine ⟨[turn], handled.matcher, ?_, .start invocation (.rest _), fun slot held => ?_, rfl,
      single.widen (Moment.le_refl _) ?_⟩
    · rw [if_neg Bool.false_ne_true, told]
      exact Journal.callsIn_hookJournal _ _ _ _ _
    · rw [if_neg Bool.false_ne_true] at held
      unfold attach at held
      dsimp only at held
      split at held
      · cases held
        rfl
      · cases held
    · simp only [Moment.le_iff, Moment.lt_iff, Moment.next]
      omega

/-- Attached matchers are started in turns, each from the state in which it was built. -/
structure Starts (id : InvocationId) (limits : Limits) (attachments : List Attachment)
    (result : List Slot × Journal) (turns : List Turn) : Prop where
  /-- Each matcher enacts its own turns. -/
  enacts : ∀ attachment ∈ attachments, ∃ last,
    Matcher.Enacts id limits [] attachment.name attachment.matcher
        (Turn.hooksOf attachment.name turns) last ∧
      ∀ slot ∈ result.1, slot.name = attachment.name → slot.matcher = last
  /-- There are no other turns. -/
  named : ∀ turn ∈ turns, turn.call.isHook = true ∧ turn.matcher ∈ attachments.map (·.name)
  /-- No region is made. -/
  made : turns.flatMap Turn.made = []
  /-- No other call is made. -/
  calls : Journal.callsIn result.2 id = turns.map Turn.told

/-- The matchers that do not wait are started one after the other. -/
theorem attachAll_turns {attachments : List Attachment}
    (waits : ∀ attachment ∈ attachments,
      roster.waits attachment.name = (!attachment.fast && deferBuffered))
    (rising : attachments.Pairwise fun early late =>
      roster.position early.name < roster.position late.name)
    (low : Nat) (behind : ∀ attachment ∈ attachments, low ≤ roster.position attachment.name) :
    ∃ turns, Starts id limits attachments (attachAll deferBuffered id invocation attachments)
        turns ∧
      roster.Within ⟨1, low, 0, 0⟩ ⟨2, 0, 0, 0⟩ turns := by
  -- Induction on the attachments, whose positions rise.
  induction attachments generalizing low with
  | nil =>
    refine ⟨[], ⟨by simp, by simp, rfl, rfl⟩, .nothing ?_⟩
    simp only [Moment.le_iff, Moment.lt_iff]
    omega
  | cons attachment rest ih =>
    obtain ⟨first, later⟩ := List.pairwise_cons.mp rising
    obtain ⟨turns, last, calls, enacts, seated, made, within⟩ :=
      seat_turns id limits invocation (waits attachment List.mem_cons_self)
    obtain ⟨others, starts, withinLater⟩ :=
      ih (fun other member => waits other (List.mem_cons_of_mem _ member)) later
        (roster.position attachment.name + 1) first
    have own : ∀ turn ∈ turns, turn.isHookOf attachment.name = true := enacts.hooks
    -- Attachments at different positions have different names.
    have apart : attachment.name ∉ rest.map (·.name) := by
      intro named
      obtain ⟨other, member, same⟩ := List.mem_map.mp named
      have less := first other member
      rw [same] at less
      exact Nat.lt_irrefl _ less
    rw [attachAll_cons]
    refine ⟨turns ++ others, ⟨?_, ?_, ?_, ?_⟩,
      (within.widen ?_ (Moment.le_refl _)).append withinLater⟩
    · intro other member
      rw [Turn.hooksOf, List.filter_append, ← Turn.hooksOf, ← Turn.hooksOf]
      rcases List.mem_cons.mp member with rfl | member
      · have nothing : Turn.hooksOf other.name others = [] :=
          Turn.hooksOf_eq_nil fun turn taken same => apart (same ▸ (starts.named turn taken).2)
        have all : Turn.hooksOf other.name turns = turns := List.filter_eq_self.mpr own
        rw [nothing, all, List.append_nil]
        refine ⟨last, enacts, fun slot held named => ?_⟩
        rcases List.mem_append.mp held with mine | theirs
        · exact seated slot (Option.mem_toList.mp mine)
        · have listed : other.name ∈
              (attachAll deferBuffered id invocation rest).1.map (·.name) :=
            List.mem_map.mpr ⟨slot, theirs, named⟩
          exact absurd ((attachAll_names rest).subset listed) apart
      · obtain ⟨found, enactsLater, left⟩ := starts.enacts other member
        have differ : attachment.name ≠ other.name :=
          fun same => apart (same ▸ List.mem_map_of_mem member)
        have nothing : Turn.hooksOf other.name turns = [] :=
          Turn.hooksOf_eq_nil fun turn taken same =>
            differ ((Turn.isHookOf_iff.mp (own turn taken)).1.symm.trans same)
        rw [nothing, List.nil_append]
        refine ⟨found, enactsLater, fun slot held named => ?_⟩
        rcases List.mem_append.mp held with mine | theirs
        · exact absurd ((seat_name (Option.mem_toList.mp mine)).1.symm.trans named) differ
        · exact left slot theirs named
    · intro turn member
      rcases List.mem_append.mp member with mine | theirs
      · have hooked := Turn.isHookOf_iff.mp (own turn mine)
        exact ⟨hooked.2, by simp [hooked.1]⟩
      · have hooked := starts.named turn theirs
        exact ⟨hooked.1, List.mem_cons_of_mem _ hooked.2⟩
    · rw [List.flatMap_append, made, starts.made, List.append_nil]
    · rw [List.map_append, ← calls, ← starts.calls]
      exact Journal.callsIn_append _ _
    · have reached := behind attachment List.mem_cons_self
      simp only [Moment.le_iff, Moment.lt_iff]
      omega

end Tracker

end Annotator

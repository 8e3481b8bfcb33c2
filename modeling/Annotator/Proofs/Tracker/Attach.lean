import Annotator.Proofs.Tracker.Frame
import Annotator.Tracker.Basic

/-! Factories are consulted and matchers are started one by one, without regard to each other. -/

namespace Annotator

namespace Call

/-- Hooks are the calls of a matcher, while its factory is asked before there is one. -/
def isHook : Call → Bool
  -- Asking and building come before the matcher.
  | .start _ | .line .. | .finish .. => true
  | .accepts .. | .create _ => false

end Call

namespace Journal

/-- The hook calls that a journal records for a matcher of an invocation, with their verdicts. -/
def hooksOf (journal : Journal) (matcher : String) (invocation : InvocationId) :
    List (Call × Verdict) :=
  -- Calls of the factory are left out.
  (journal.callsOf matcher invocation).filter fun pair => pair.1.isHook

/-- Hook calls are told one journal after the other. -/
@[simp] theorem hooksOf_append (early late : Journal) (matcher : String)
    (invocation : InvocationId) :
    Journal.hooksOf (early ++ late) matcher invocation =
      Journal.hooksOf early matcher invocation ++ Journal.hooksOf late matcher invocation := by
  -- Entries are selected one by one.
  simp [hooksOf]

/-- An empty journal tells of no hook call. -/
@[simp] theorem hooksOf_nil (matcher : String) (invocation : InvocationId) :
    Journal.hooksOf [] matcher invocation = [] :=
  -- There is no entry to select.
  rfl

/-- What happens around a hook call tells of that hook call alone. -/
theorem hooksOf_hookJournal {call : Call} (hooked : call.isHook = true) (name : String)
    (id : InvocationId) (hook : String) (verdict : Verdict) (notes : List Note) :
    Journal.hooksOf (hookJournal name id hook call verdict notes) name id = [(call, verdict)] := by
  -- Of what a hook leaves, the call is the only one, and notes and notices are none.
  simp [hooksOf, callsOf_hookJournal, hooked]

/-- A journal without calls of a matcher is one without its hook calls. -/
theorem hooksOf_of_callsOf {journal : Journal} {matcher : String} {invocation : InvocationId}
    (quiet : journal.callsOf matcher invocation = []) :
    journal.hooksOf matcher invocation = [] := by
  -- Hooks are calls.
  rw [hooksOf, quiet, List.filter_nil]

/-- All calls that a journal records are allowed. -/
def OnlyCalls (allowed : String → InvocationId → Call → Prop) (journal : Journal) : Prop :=
  -- How a call was answered makes no difference.
  ∀ name id call verdict, .called name id call verdict ∈ journal → allowed name id call

/-- A journal of allowed calls has no call of a matcher that is allowed none. -/
theorem OnlyCalls.callsOf_eq_nil {allowed : String → InvocationId → Call → Prop}
    {journal : Journal} (only : journal.OnlyCalls allowed) {matcher : String}
    {invocation : InvocationId} (foreign : ∀ call, ¬allowed matcher invocation call) :
    journal.callsOf matcher invocation = [] := by
  -- A recorded call would have to be allowed.
  rw [callsOf, List.filterMap_eq_nil_iff]
  intro entry member
  cases entry with
  | called name id call verdict =>
    have permitted := only name id call verdict member
    refine if_neg ?_
    rintro ⟨rfl, rfl⟩
    exact foreign call permitted
  | noted note => rfl
  | noticed notice => rfl

/-- A journal of allowed calls has no hook call of a matcher that is allowed none. -/
theorem OnlyCalls.hooksOf_eq_nil {allowed : String → InvocationId → Call → Prop}
    {journal : Journal} (only : journal.OnlyCalls allowed) {matcher : String}
    {invocation : InvocationId} (asked : ∀ call, allowed matcher invocation call →
      call.isHook = false) :
    journal.hooksOf matcher invocation = [] := by
  -- The calls that are allowed to the matcher are none of its hooks.
  rw [hooksOf, List.filter_eq_nil_iff]
  intro pair member
  obtain ⟨entry, present, chosen⟩ := List.mem_filterMap.mp member
  cases entry with
  | called name id call verdict =>
    dsimp only at chosen
    split at chosen
    · rename_i own
      cases chosen
      obtain ⟨rfl, rfl⟩ := own
      simp [asked call (only _ _ call verdict present)]
    · simp at chosen
  | noted note => simp at chosen
  | noticed notice => simp at chosen

end Journal

namespace Registry

variable {id : InvocationId} {invocation : Invocation} {site : Site}

/-- Only a factory that accepts and builds a matcher attaches, and it attaches that matcher. -/
theorem consult_eq_some {factory : Factory} {attachment : Attachment}
    (attached : (consult factory id invocation site).1 = some attachment) :
    factory.accepts site.command invocation.workingDir = .ok true ∧
      ∃ notes matcher, factory.create site = (notes, .ok matcher) ∧
        attachment = { name := factory.name, fast := factory.fast
                       finishPolicy := factory.finishPolicy, matcher } := by
  -- A refusal, and failing to ask or to build, leave nothing attached.
  unfold consult at attached
  cases answer : factory.accepts site.command invocation.workingDir with
  | error fault => simp [answer] at attached
  | ok wanted =>
    cases wanted with
    | false => simp [answer] at attached
    | true =>
      cases built : factory.create site with
      | mk notes result =>
        cases result with
        | error text => simp [answer, built] at attached
        | ok matcher =>
          simp only [answer, built, Option.some.injEq] at attached
          exact ⟨rfl, notes, matcher, rfl, attached.symm⟩

/-- Consulting a factory yields an attachment under its own name. -/
theorem consult_name {factory : Factory} {attachment : Attachment}
    (attached : (consult factory id invocation site).1 = some attachment) :
    attachment.name = factory.name := by
  -- The attachment is put together by the factory.
  obtain ⟨_, _, _, _, rfl⟩ := consult_eq_some attached
  rfl

/-- Consulting a factory calls that factory and no hook. -/
theorem consult_onlyCalls (factory : Factory) :
    (consult factory id invocation site).2.OnlyCalls fun name other call =>
      name = factory.name ∧ other = id ∧ call.isHook = false := by
  -- The factory is asked first and then builds a matcher if it accepts.
  unfold consult
  intro name other call verdict member
  cases answer : factory.accepts site.command invocation.workingDir with
  | error fault =>
    simp only [answer, List.cons_append, List.nil_append, List.mem_cons, List.not_mem_nil,
      Entry.called.injEq, reduceCtorEq, or_false] at member
    obtain ⟨rfl, rfl, rfl, _⟩ := member
    exact ⟨rfl, rfl, rfl⟩
  | ok wanted =>
    cases wanted with
    | false =>
      simp only [answer, List.mem_cons, List.not_mem_nil, Entry.called.injEq, or_false] at member
      obtain ⟨rfl, rfl, rfl, _⟩ := member
      exact ⟨rfl, rfl, rfl⟩
    | true =>
      cases built : factory.create site with
      | mk notes result =>
        have either : (name = factory.name ∧ other = id ∧
            call = .accepts site.command invocation.workingDir) ∨
            (name = factory.name ∧ other = id ∧ call = .create site) := by
          cases result <;>
          simp only [answer, built, List.cons_append, List.nil_append, List.mem_cons,
            List.mem_append, List.mem_map, List.not_mem_nil, Entry.called.injEq, reduceCtorEq,
            and_false, exists_false, or_false] at member <;>
          exact member.imp (fun same => ⟨same.1, same.2.1, same.2.2.1⟩)
            fun same => ⟨same.1, same.2.1, same.2.2.1⟩
        rcases either with ⟨rfl, rfl, rfl⟩ | ⟨rfl, rfl, rfl⟩
        · exact ⟨rfl, rfl, rfl⟩
        · exact ⟨rfl, rfl, rfl⟩

/-- Consulting factories in two groups gives the same as consulting all of them. -/
theorem consultAll_append (front back : List Factory) :
    consultAll id invocation site (front ++ back) =
      ((consultAll id invocation site front).1 ++ (consultAll id invocation site back).1,
        (consultAll id invocation site front).2 ++ (consultAll id invocation site back).2) := by
  -- No factory learns of the decision of another.
  induction front with
  | nil => rfl
  | cons factory rest ih => simp [consultAll, ih]

/-- Attachments stand in the order of their factories, each under its name. -/
theorem consultAll_names (factories : List Factory) :
    ((consultAll id invocation site factories).1.map (·.name)).Sublist
      (factories.map (·.name)) := by
  -- Induction on the factories, each of which attaches one matcher at most, under its own name.
  induction factories with
  | nil => exact List.Sublist.refl _
  | cons factory rest ih =>
    rw [consultAll, List.map_append]
    cases attached : (consult factory id invocation site).1 with
    | none => exact ih.cons factory.name
    | some attachment =>
      have same := consult_name attached
      simpa [attached, same] using ih

/-- Consulting factories calls no other factory and no hook. -/
theorem consultAll_onlyCalls (factories : List Factory) :
    (consultAll id invocation site factories).2.OnlyCalls fun name other call =>
      name ∈ factories.map (·.name) ∧ other = id ∧ call.isHook = false := by
  -- Induction on the factories, each of which is called under its own name.
  intro name other call verdict member
  induction factories with
  | nil => simp [consultAll] at member
  | cons factory rest ih =>
    rw [consultAll] at member
    rcases List.mem_append.mp member with first | later
    · obtain ⟨rfl, same, asked⟩ := consult_onlyCalls factory name other call verdict first
      exact ⟨by simp, same, asked⟩
    · obtain ⟨named, same, asked⟩ := ih later
      exact ⟨List.mem_cons_of_mem _ named, same, asked⟩

/-- A blank command attaches nothing, and any other one what its factories build. -/
theorem resolve_eq (registry : Registry) (id : InvocationId) (invocation : Invocation) :
    registry.resolve id invocation =
      if (siteOf invocation).command.isEmpty then ([], [])
      else consultAll id invocation (siteOf invocation) registry.factories :=
  -- This is how a registry resolves, with the site written out.
  rfl

/-- A matcher that attaches was built by a factory that accepts, and is scheduled as that tells. -/
theorem resolve_origin {registry : Registry} {id : InvocationId} {invocation : Invocation}
    {attachment : Attachment} (attached : attachment ∈ (registry.resolve id invocation).1) :
    ∃ factory ∈ registry.factories,
      factory.accepts (siteOf invocation).command invocation.workingDir = .ok true ∧
      ∃ notes matcher, factory.create (siteOf invocation) = (notes, .ok matcher) ∧
        attachment = { name := factory.name, fast := factory.fast
                       finishPolicy := factory.finishPolicy, matcher } := by
  -- Induction on the factories: an attachment comes from the first or from the others.
  rw [resolve_eq] at attached
  split at attached
  · cases attached
  · generalize registry.factories = factories at attached
    induction factories with
    | nil => cases attached
    | cons factory rest ih =>
      rw [consultAll] at attached
      rcases List.mem_append.mp attached with first | others
      · have present := Option.mem_toList.mp first
        exact ⟨factory, List.mem_cons_self, consult_eq_some present⟩
      · obtain ⟨other, member, origin⟩ := ih others
        exact ⟨other, List.mem_cons_of_mem _ member, origin⟩

/-- A matcher that attaches was built by a registered factory and bears its name. -/
theorem resolve_built {registry : Registry} {id : InvocationId} {invocation : Invocation}
    {attachment : Attachment} (attached : attachment ∈ (registry.resolve id invocation).1) :
    ∃ factory ∈ registry.factories, ∃ notes,
      factory.create (siteOf invocation) = (notes, .ok attachment.matcher) ∧
        attachment.name = factory.name := by
  -- The factory that the attachment comes from has built its matcher.
  obtain ⟨factory, member, _, notes, matcher, built, rfl⟩ := resolve_origin attached
  exact ⟨factory, member, notes, built, rfl⟩

/-- Attachments stand in the order of registration. -/
theorem resolve_names (registry : Registry) (id : InvocationId) (invocation : Invocation) :
    ((registry.resolve id invocation).1.map (·.name)).Sublist registry.names := by
  -- Unless the command is empty, all factories are consulted in order.
  rw [resolve_eq]
  split
  · exact List.nil_sublist _
  · exact consultAll_names registry.factories

/-- Resolving calls the registered factories and no hook. -/
theorem resolve_onlyCalls (registry : Registry) (id : InvocationId) (invocation : Invocation) :
    (registry.resolve id invocation).2.OnlyCalls fun name other call =>
      name ∈ registry.names ∧ other = id ∧ call.isHook = false := by
  -- About an empty command nobody is called.
  rw [resolve_eq]
  split
  · intro name other call verdict member
    simp at member
  · exact consultAll_onlyCalls registry.factories

end Registry

namespace Tracker

variable {deferBuffered : Bool} {id : InvocationId} {invocation : Invocation}

/-- An attachment that may wait is given a waiting slot, and any other one is started at once. -/
def seat (deferBuffered : Bool) (id : InvocationId) (invocation : Invocation)
    (attachment : Attachment) : Option Slot × Journal :=
  -- Only fast matchers are started under deferral.
  if !attachment.fast && deferBuffered then (some (Slot.ofAttachment attachment .waiting), [])
  else attach id invocation attachment

/-- The first attachment is seated in front of the others. -/
theorem attachAll_cons (attachment : Attachment) (rest : List Attachment) :
    attachAll deferBuffered id invocation (attachment :: rest) =
      let seated := seat deferBuffered id invocation attachment
      let others := attachAll deferBuffered id invocation rest
      (seated.1.toList ++ others.1, seated.2 ++ others.2) := by
  -- The first attachment is seated before the others.
  rw [attachAll, seat]

/-- Attachments seated in two groups are seated as all of them are. -/
theorem attachAll_append (front back : List Attachment) :
    attachAll deferBuffered id invocation (front ++ back) =
      let first := attachAll deferBuffered id invocation front
      let second := attachAll deferBuffered id invocation back
      (first.1 ++ second.1, first.2 ++ second.2) := by
  -- No matcher learns of the others when it is started.
  induction front with
  | nil => rfl
  | cons attachment rest ih =>
    rw [List.cons_append, attachAll_cons, attachAll_cons, ih]
    simp

/-- A matcher is seated waiting, or as it is once it was started and wants the invocation. -/
theorem seat_eq_some {attachment : Attachment} {slot : Slot}
    (seated : (seat deferBuffered id invocation attachment).1 = some slot) :
    slot = Slot.ofAttachment attachment .waiting ∨
      (attachment.matcher.start invocation).answer = .ok true ∧
        slot = Slot.ofAttachment
          { attachment with matcher := (attachment.matcher.start invocation).matcher } .active := by
  -- A waiting slot is seated as it is, and another only if its start wants lines.
  unfold seat at seated
  split at seated
  · cases seated
    exact .inl rfl
  · unfold attach at seated
    dsimp only at seated
    split at seated
    · rename_i wanted
      cases seated
      exact .inr ⟨wanted, rfl⟩
    · cases seated

/-- A seated matcher keeps its name and its policy. -/
theorem seat_name {attachment : Attachment} {slot : Slot}
    (seated : (seat deferBuffered id invocation attachment).1 = some slot) :
    slot.name = attachment.name ∧ slot.finishPolicy = attachment.finishPolicy := by
  -- Seating changes the state and nothing else.
  rcases seat_eq_some seated with rfl | ⟨-, rfl⟩
  · exact ⟨rfl, rfl⟩
  · exact ⟨rfl, rfl⟩

/-- Seating a matcher calls that matcher alone. -/
theorem seat_calls (attachment : Attachment) (matcher : String) (other : InvocationId)
    (foreign : matcher ≠ attachment.name ∨ other ≠ id) :
    Journal.callsOf (seat deferBuffered id invocation attachment).2 matcher other = [] := by
  -- Only a matcher that does not wait is called.
  unfold seat
  split
  · rfl
  · -- The one call is the start of the matcher.
    have told : (attach id invocation attachment).2 =
        hookJournal attachment.name id "on_start" (.start invocation)
          (.ofWish (attachment.matcher.start invocation).answer)
          (attachment.matcher.start invocation).notes := by
      unfold attach
      dsimp only
      split <;> rfl
    rw [told, Journal.callsOf_hookJournal, if_neg]
    rintro ⟨rfl, rfl⟩
    simp at foreign

/-- Every slot is the seat of an attachment. -/
theorem mem_attachAll {attachments : List Attachment} {slot : Slot}
    (member : slot ∈ (attachAll deferBuffered id invocation attachments).1) :
    ∃ attachment ∈ attachments, (seat deferBuffered id invocation attachment).1 = some slot := by
  -- Induction on the attachments, each of which takes one slot at most.
  induction attachments with
  | nil => simp [attachAll] at member
  | cons attachment rest ih =>
    rw [attachAll_cons] at member
    rcases List.mem_append.mp member with own | later
    · exact ⟨attachment, List.mem_cons_self, Option.mem_toList.mp own⟩
    · obtain ⟨other, present, seated⟩ := ih later
      exact ⟨other, List.mem_cons_of_mem attachment present, seated⟩

/-- Slots stand in the order of their attachments, each under its name. -/
theorem attachAll_names (attachments : List Attachment) :
    ((attachAll deferBuffered id invocation attachments).1.map (·.name)).Sublist
      (attachments.map (·.name)) := by
  -- Induction on the attachments, each of which is seated under its own name or not at all.
  induction attachments with
  | nil => exact List.Sublist.refl _
  | cons attachment rest ih =>
    rw [attachAll_cons, List.map_append]
    cases seated : (seat deferBuffered id invocation attachment).1 with
    | none => exact ih.cons attachment.name
    | some slot =>
      have same := (seat_name seated).1
      simpa [same] using ih

/-- Seating matchers calls no other one. -/
theorem attachAll_calls (attachments : List Attachment) (matcher : String) (other : InvocationId)
    (foreign : matcher ∉ attachments.map (·.name) ∨ other ≠ id) :
    Journal.callsOf (attachAll deferBuffered id invocation attachments).2 matcher other = [] := by
  -- Induction on the attachments, each of which starts under its own name.
  induction attachments with
  | nil => rfl
  | cons attachment rest ih =>
    simp only [List.map_cons, List.mem_cons, not_or] at foreign
    rw [attachAll_cons]
    dsimp only
    rw [Journal.callsOf_append, seat_calls attachment matcher other (foreign.imp_left And.left),
      ih (foreign.imp_left And.right), List.append_nil]

/-- Among matchers of distinct names, each is seated and called as if it were alone. -/
theorem attachAll_singles {attachments : List Attachment}
    (distinct : (attachments.map (·.name)).Nodup) {attachment : Attachment}
    (member : attachment ∈ attachments) :
    Slot.Singles (attachAll deferBuffered id invocation attachments).1 attachment.name
        (seat deferBuffered id invocation attachment).1 ∧
      Journal.callsOf (attachAll deferBuffered id invocation attachments).2 attachment.name id =
        Journal.callsOf (seat deferBuffered id invocation attachment).2 attachment.name id := by
  -- The list of attachments is split at the one that is meant.
  obtain ⟨front, back, rfl⟩ := List.append_of_mem member
  rw [List.map_append, List.map_cons, List.nodup_append, List.nodup_cons] at distinct
  obtain ⟨_, ⟨behind, _⟩, before⟩ := distinct
  have ahead : attachment.name ∉ front.map (·.name) := fun named =>
    before _ named _ List.mem_cons_self rfl
  -- No slot in front or behind has the name of the matcher.
  have apart (others : List Attachment) (absent : attachment.name ∉ others.map (·.name)) :
      ∀ slot ∈ (attachAll deferBuffered id invocation others).1, slot.name ≠ attachment.name := by
    intro slot present same
    exact absent ((attachAll_names others).subset (List.mem_map.mpr ⟨slot, present, same⟩))
  rw [attachAll_append, attachAll_cons]
  dsimp only
  refine ⟨⟨⟨_, _, (List.append_assoc ..).symm, ?_⟩, fun slot seated => (seat_name seated).1⟩, ?_⟩
  · intro slot present
    rcases List.mem_append.mp present with early | late
    · exact apart front ahead slot early
    · exact apart back behind slot late
  · rw [Journal.callsOf_append, Journal.callsOf_append,
      attachAll_calls front _ _ (.inl ahead), attachAll_calls back _ _ (.inl behind),
      List.append_nil, List.nil_append]

end Tracker

end Annotator

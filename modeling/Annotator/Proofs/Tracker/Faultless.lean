import Annotator.Proofs.Build.Faultless
import Annotator.Proofs.Listing.Faultless
import Annotator.Proofs.Registry.Registration
import Annotator.Proofs.WorkTree.Faultless
import Annotator.Settings.Validate
import Mathlib.Data.List.Nodup

/-! No built-in matcher ever fails, whatever runs beside it and whatever output it is given. -/

namespace Annotator

namespace Journal

/-- A journal spares the matchers of some names when none of their calls failed. -/
def Spares (names : List String) (journal : Journal) : Prop :=
  -- Calls of other matchers may have failed.
  ∀ name id call fault, name ∈ names → Entry.called name id call (.failed fault) ∉ journal

/-- An empty journal spares everyone. -/
theorem Spares.nil (names : List String) : Journal.Spares names [] := by
  -- Nobody is called.
  intro name id call fault _ member
  simp at member

/-- Two journals spare together whom each of them spares. -/
theorem Spares.append {names : List String} {early late : Journal} (first : early.Spares names)
    (second : late.Spares names) : Journal.Spares names (early ++ late) := by
  -- A call of both journals is one of either.
  intro name id call fault named member
  rcases List.mem_append.mp member with old | new
  · exact first name id call fault named old
  · exact second name id call fault named new

/-- What happens around a hook call spares its matcher unless the call failed. -/
theorem spares_hookJournal {names : List String} {name : String} {verdict : Verdict}
    (succeeds : name ∈ names → ∀ fault, verdict ≠ .failed fault) (id : InvocationId)
    (hook : String) (call : Call) (notes : List Note) :
    Journal.Spares names (hookJournal name id hook call verdict notes) := by
  -- The one call of the hook has the verdict that is spared.
  intro other otherId otherCall fault named member
  unfold hookJournal at member
  rw [List.cons_append, List.mem_cons, List.mem_append] at member
  rcases member with same | noted | noticed
  · cases same
    exact succeeds named fault rfl
  · simp at noted
  · cases verdict <;> simp at noticed

end Journal

namespace Slot

variable {names : List String} {slot : Slot}

/-- A slot of one of the names holds a faultless matcher that has not failed. -/
def Sound (names : List String) (slot : Slot) : Prop :=
  -- Slots of other names are not restricted.
  slot.name ∈ names → slot.matcher.machine.Faultless ∧ slot.status ≠ .faulted

/-- A step spares a slot when it leaves it sound and none of its calls failed. -/
structure Spared (names : List String) (result : Slot × RegionTable × Journal) : Prop where
  /-- The slot is sound. -/
  sound : result.1.Sound names
  /-- No call failed. -/
  spares : result.2.2.Spares names

/-- Doing nothing spares a sound slot. -/
theorem Spared.refl (sound : slot.Sound names) (table : RegionTable) :
    Spared names (slot, table, []) :=
  -- Nobody is called and nothing changes.
  ⟨sound, .nil names⟩

/-- Delivering a line spares a sound slot. -/
theorem Sound.deliver (sound : slot.Sound names) (stage : Stage) (table : RegionTable)
    (line : LogicalLine) :
    Spared names (slot.deliver stage table line) := by
  -- Only an active slot is called.
  by_cases active : slot.status = .active
  · rw [deliver_of_active active]
    -- A faultless matcher takes the current line, so its answer is no fault.
    have current : (stage.scene slot.name (some line)).line = some line := rfl
    have taken (named : slot.name ∈ names) :=
      Matcher.takeLine_faultless (sound named).1 current table
    refine ⟨fun named => ?_, Journal.spares_hookJournal (fun named fault => ?_) _ _ _ _⟩
    · obtain ⟨⟨flow, answer⟩, faultless⟩ := taken named
      refine ⟨faultless, ?_⟩
      dsimp only
      rw [answer]
      cases flow <;> simp [SlotStatus.afterLine]
    · obtain ⟨⟨flow, answer⟩, _⟩ := taken named
      rw [answer]
      cases flow <;> simp [Verdict.ofFlow]
  · rw [deliver_of_not_active active]
    exact .refl sound table

/-- Delivering lines spares a sound slot. -/
theorem Sound.deliverLines (sound : slot.Sound names) (stage : Stage) (table : RegionTable)
    (lines : List LogicalLine) :
    Spared names (slot.deliverLines stage table lines) := by
  -- Induction on the lines, each of which leaves the slot sound.
  induction lines generalizing slot table with
  | nil => exact .refl sound table
  | cons line rest ih =>
    obtain ⟨first, told⟩ := sound.deliver stage table line
    obtain ⟨last, toldLater⟩ := ih first (slot.deliver stage table line).2.1
    exact ⟨last, told.append toldLater⟩

/-- Catching up spares a sound slot. -/
theorem Sound.catchUp (sound : slot.Sound names) (stage : Stage) (invocation : Invocation)
    (table : RegionTable) (lines : List LogicalLine) :
    Spared names (slot.catchUp stage invocation table lines) := by
  -- Only a slot that waits is called.
  by_cases waiting : slot.status = .waiting
  · rw [catchUp_of_waiting waiting]
    have started (named : slot.name ∈ names) :=
      Matcher.start_faultless (sound named).1 invocation
    let begun : Slot := { slot with
      matcher := (slot.matcher.start invocation).matcher
      status := .afterStart (slot.matcher.start invocation).answer }
    -- The start of a faultless matcher answers, so the slot does not come out of it faulted.
    have prepared : begun.Sound names := by
      intro named
      obtain ⟨⟨wanted, answer⟩, faultless⟩ := started named
      refine ⟨faultless, ?_⟩
      dsimp only [begun]
      rw [answer]
      cases wanted <;> simp [SlotStatus.afterStart]
    obtain ⟨last, toldLater⟩ := prepared.deliverLines stage table lines
    refine ⟨last, .append (Journal.spares_hookJournal (fun named fault => ?_) _ _ _ _) toldLater⟩
    obtain ⟨⟨wanted, answer⟩, _⟩ := started named
    rw [answer]
    cases wanted <;> simp [Verdict.ofWish]
  · rw [catchUp_of_not_waiting waiting]
    exact .refl sound table

/-- Finishing spares a sound slot. -/
theorem Sound.finish (sound : slot.Sound names) (stage : Stage) (table : RegionTable)
    (totalRows : Nat) :
    Spared names (slot.finish stage table totalRows) := by
  -- Only a slot that wants it is called.
  by_cases wanted : slot.wantsFinish = true
  · rw [finish_of_wanting wanted]
    -- Finishing a faultless matcher succeeds, so the status stays what it was.
    have finished (named : slot.name ∈ names) :=
      Matcher.finish_faultless (sound named).1 (stage.scene slot.name none) table totalRows
    refine ⟨fun named => ?_, Journal.spares_hookJournal (fun named fault => ?_) _ _ _ _⟩
    · obtain ⟨answer, faultless⟩ := finished named
      refine ⟨faultless, ?_⟩
      dsimp only
      rw [answer]
      exact (sound named).2
    · rw [(finished named).1]
      simp [Verdict.ofWork]
  · rw [finish_of_not_wanting (by simpa using wanted)]
    exact .refl sound table

/-- Completing spares a sound slot. -/
theorem Sound.complete (sound : slot.Sound names) (stage : Stage) (invocation : Invocation)
    (lines : List LogicalLine) (totalRows : Nat) (table : RegionTable) :
    Spared names (slot.complete stage invocation lines totalRows table) := by
  -- The slot is still sound when it has caught up.
  obtain ⟨caught, told⟩ := sound.catchUp stage invocation table lines
  obtain ⟨last, toldLater⟩ := caught.finish stage _ totalRows
  exact ⟨last, told.append toldLater⟩

/-- Steps that spare each sound slot spare all of them together. -/
theorem each_spared {step : Slot → RegionTable → Slot × RegionTable × Journal}
    (spares : ∀ slot table, slot.Sound names → Spared names (step slot table))
    {slots : List Slot} (sound : ∀ slot ∈ slots, slot.Sound names) (table : RegionTable) :
    (∀ slot ∈ (each step slots table).1, slot.Sound names) ∧
      Journal.Spares names (each step slots table).2.2 := by
  -- Induction on the slots, each of which is sound by itself.
  induction slots generalizing table with
  | nil => exact ⟨fun slot member => by simp [each] at member, .nil names⟩
  | cons slot rest ih =>
    obtain ⟨first, told⟩ := spares slot table (sound slot List.mem_cons_self)
    obtain ⟨others, toldLater⟩ :=
      ih (fun other member => sound other (List.mem_cons_of_mem _ member)) (step slot table).2.1
    refine ⟨fun other member => ?_, told.append toldLater⟩
    rcases List.mem_cons.mp member with same | later
    · exact same ▸ first
    · exact others other later

end Slot

namespace Running

variable {names : List String} {running : Running}

/-- A running invocation is sound when all its slots are. -/
def Sound (names : List String) (running : Running) : Prop :=
  -- Its rows and lines are not restricted.
  ∀ slot ∈ running.slots, slot.Sound names

/-- Delivering a line that may not have been completed spares a sound invocation. -/
theorem Sound.deliverIfAny (sound : running.Sound names) (id : InvocationId) (limits : Limits)
    (table : RegionTable) (given : Option LogicalLine) :
    (running.deliverIfAny id limits table given).1.Sound names ∧
      Journal.Spares names (running.deliverIfAny id limits table given).2.2 := by
  -- Without a line nobody is called.
  cases given with
  | none => exact ⟨sound, .nil names⟩
  | some line =>
    exact Slot.each_spared (fun slot table held => held.deliver _ table line) sound table

/-- Pushing a row spares a sound invocation. -/
theorem Sound.push (sound : running.Sound names) (id : InvocationId) (limits : Limits)
    (table : RegionTable) (row : String) (wraps : Bool) :
    (running.push id limits table row wraps).1.Sound names ∧
      Journal.Spares names (running.push id limits table row wraps).2.2 := by
  -- The row itself changes no slot.
  let grown : Running := { running with
    buffer := (running.buffer.push row wraps).2
    rows := running.rows.push row }
  have same : grown.Sound names := sound
  exact same.deliverIfAny id limits table (running.buffer.push row wraps).1

/-- Completing spares a sound invocation. -/
theorem Sound.complete (sound : running.Sound names) (id : InvocationId) (limits : Limits)
    (table : RegionTable) (exitCode : Int) (totalRows : Nat) :
    Journal.Spares names (running.complete id limits table exitCode totalRows).2 := by
  -- The last line is delivered before the slots are completed.
  let settled : Running := { running with buffer := running.buffer.flush.2 }
  have same : settled.Sound names := sound
  obtain ⟨flushed, told⟩ := same.deliverIfAny id limits table running.buffer.flush.1
  -- The slots are completed behind the flushed line.
  refine told.append (Slot.each_spared (fun slot table held => ?_) flushed _).2
  exact held.complete _ _ _ totalRows table

end Running

namespace Registry

variable {names : List String} {invocation : Invocation}

/-- A faultless factory is consulted without failing and attaches faultless matchers. -/
theorem consult_spares {factory : Factory}
    (faultless : factory.name ∈ names → factory.Faultless) (clean : invocation.Clean)
    (id : InvocationId) :
    Journal.Spares names (consult factory id invocation (siteOf invocation)).2 ∧
      ∀ attachment, (consult factory id invocation (siteOf invocation)).1 = some attachment →
        attachment.name ∈ names → attachment.matcher.machine.Faultless := by
  -- A factory of one of the names is faultless, and one of another name is not spared.
  by_cases trusted : factory.name ∈ names
  · obtain ⟨wanted, answer⟩ :=
      (faultless trusted).accepts (siteOf invocation).command invocation.workingDir
    cases wanted with
    | false =>
      simp only [consult, answer]
      refine ⟨fun name other call fault named member => ?_, fun attachment attached => ?_⟩
      · simp [Verdict.ofWish] at member
      · simp at attached
    | true =>
      -- The constructor is only promised to succeed where the predicate has accepted.
      obtain ⟨notes, matcher, built, sound⟩ := (faultless trusted).create invocation clean answer
      simp only [consult, answer, built]
      refine ⟨fun name other call fault named member => ?_, fun attachment same _ => ?_⟩
      · simp [Verdict.ofWish] at member
      · cases same
        exact sound
  · -- A factory of another name is called under that name only.
    refine ⟨fun name other call fault named member => ?_, fun attachment attached named => ?_⟩
    · obtain ⟨rfl, _⟩ := consult_onlyCalls factory name other call _ member
      exact trusted named
    · rw [consult_name attached] at named
      exact absurd named trusted

/-- Faultless factories are consulted without failing and attach faultless matchers. -/
theorem resolve_spares {registry : Registry}
    (faultless : ∀ factory ∈ registry.factories, factory.name ∈ names → factory.Faultless)
    (clean : invocation.Clean) (id : InvocationId) :
    Journal.Spares names (registry.resolve id invocation).2 ∧
      ∀ attachment ∈ (registry.resolve id invocation).1, attachment.name ∈ names →
        attachment.matcher.machine.Faultless := by
  -- Induction on the factories, each of which is consulted by itself.
  rw [resolve_eq]
  split
  · exact ⟨.nil names, fun attachment member => by simp at member⟩
  · generalize registry.factories = factories at faultless
    induction factories with
    | nil => exact ⟨.nil names, fun attachment member => by simp [consultAll] at member⟩
    | cons factory rest ih =>
      obtain ⟨told, first⟩ := consult_spares (faultless factory List.mem_cons_self) clean id
      obtain ⟨toldLater, others⟩ :=
        ih fun other member => faultless other (List.mem_cons_of_mem _ member)
      refine ⟨told.append toldLater, fun attachment member => ?_⟩
      rw [consultAll] at member
      rcases List.mem_append.mp member with own | later
      · exact first attachment (Option.mem_toList.mp own)
      · exact others attachment later

end Registry

namespace Tracker

variable {names : List String}

/-- Seating a faultless matcher gives a sound slot and spares the matcher. -/
theorem seat_spares {attachment : Attachment}
    (faultless : attachment.name ∈ names → attachment.matcher.machine.Faultless)
    (deferBuffered : Bool) (id : InvocationId) (invocation : Invocation) :
    (∀ slot, (seat deferBuffered id invocation attachment).1 = some slot → slot.Sound names) ∧
      Journal.Spares names (seat deferBuffered id invocation attachment).2 := by
  -- The matcher is started here unless it waits.
  unfold seat
  split
  · -- A deferred matcher is seated without being called.
    refine ⟨fun slot same named => ?_, .nil names⟩
    cases same
    exact ⟨faultless named, by simp [Slot.ofAttachment]⟩
  · have started (named : attachment.name ∈ names) :=
      Matcher.start_faultless (faultless named) invocation
    have told : Journal.Spares names (hookJournal attachment.name id "on_start"
        (.start invocation) (.ofWish (attachment.matcher.start invocation).answer)
        (attachment.matcher.start invocation).notes) := by
      refine Journal.spares_hookJournal (fun named fault => ?_) _ _ _ _
      obtain ⟨⟨wanted, answer⟩, _⟩ := started named
      rw [answer]
      cases wanted <;> simp [Verdict.ofWish]
    unfold attach
    dsimp only
    split
    · refine ⟨fun slot same named => ?_, told⟩
      cases same
      exact ⟨(started named).2, by simp [Slot.ofAttachment]⟩
    · exact ⟨fun slot same => by simp at same, told⟩

/-- Seating faultless matchers gives sound slots and spares the matchers. -/
theorem attachAll_spares {attachments : List Attachment}
    (faultless : ∀ attachment ∈ attachments, attachment.name ∈ names →
      attachment.matcher.machine.Faultless) (deferBuffered : Bool) (id : InvocationId)
    (invocation : Invocation) :
    (∀ slot ∈ (attachAll deferBuffered id invocation attachments).1, slot.Sound names) ∧
      Journal.Spares names (attachAll deferBuffered id invocation attachments).2 := by
  -- Induction on the attachments, each of which is seated by itself.
  induction attachments with
  | nil => exact ⟨fun slot member => by simp [attachAll] at member, .nil names⟩
  | cons attachment rest ih =>
    obtain ⟨seated, told⟩ :=
      seat_spares (faultless attachment List.mem_cons_self) deferBuffered id invocation
    obtain ⟨others, toldLater⟩ :=
      ih fun other member => faultless other (List.mem_cons_of_mem _ member)
    rw [attachAll_cons]
    refine ⟨fun slot member => ?_, told.append toldLater⟩
    rcases List.mem_append.mp member with own | later
    · exact seated slot (Option.mem_toList.mp own)
    · exact others slot later

/-- A tracker is sound when all its running invocations are. -/
def Sound (names : List String) (tracker : Tracker) : Prop :=
  -- What has ended needs no slots.
  ∀ id running, tracker.running? id = some running → running.Sound names

/-- An operation spares a sound tracker when faultless factories are given clean invocations. -/
theorem Sound.perform {tracker : Tracker} (bounded : tracker.Bounded) (sound : tracker.Sound names)
    (faultless : ∀ factory ∈ tracker.registry.factories, factory.name ∈ names → factory.Faultless)
    {operation : Operation}
    (clean : ∀ invocation, operation = .begin invocation → invocation.Clean) :
    (tracker.perform operation).2.1.Sound names ∧
      Journal.Spares names (tracker.perform operation).2.2 := by
  -- One case for each operation: only beginning brings in new slots.
  have all : tracker.AllRunning (Running.Sound names) := sound
  cases operation with
  | begin invocation =>
    -- New matchers come in here alone, so here the invocation has to be clean.
    obtain ⟨consulted, attached⟩ :=
      Registry.resolve_spares faultless (clean invocation rfl) tracker.upcoming
    obtain ⟨seated, started⟩ :=
      attachAll_spares attached tracker.deferBuffered tracker.upcoming invocation
    refine ⟨all.begin bounded ?_, ?_⟩
    · dsimp only [Running.Sound]
      exact seated
    · rw [perform_begin]
      exact consulted.append started
  | pushRow id row wraps =>
    cases present : tracker.running? id with
    | none => rw [perform_gone rfl present]; exact ⟨sound, .nil names⟩
    | some running =>
      rw [perform_pushRow present]
      obtain ⟨pushed, told⟩ :=
        (sound id running present).push id tracker.limits tracker.table row wraps
      exact ⟨all.update present pushed _, told⟩
  | finish id exitCode totalRows =>
    cases present : tracker.running? id with
    | none => rw [perform_gone rfl present]; exact ⟨sound, .nil names⟩
    | some running =>
      rw [perform_finish present]
      refine ⟨all.release id, ?_⟩
      exact (sound id running present).complete id tracker.limits tracker.table exitCode totalRows
  | abandon id =>
    cases present : tracker.running? id with
    | none => rw [perform_gone rfl present]; exact ⟨sound, .nil names⟩
    | some running => rw [perform_abandon present]; exact ⟨all.release id, .nil names⟩
  | evict region => exact ⟨sound, .nil names⟩
  | evictInvocation id => exact ⟨sound, .nil names⟩

/-- Over a course, matchers of faultless factories never fail. -/
theorem Sound.course {tracker : Tracker} (bounded : tracker.Bounded) (sound : tracker.Sound names)
    (faultless : ∀ factory ∈ tracker.registry.factories, factory.name ∈ names → factory.Faultless)
    {operations : List Operation}
    (clean : ∀ invocation, .begin invocation ∈ operations → invocation.Clean) :
    (tracker.course operations).tracker.Sound names ∧
      Journal.Spares names (tracker.course operations).journal := by
  -- The induction adds the operations one by one at the end.
  induction operations using List.reverseRecOn with
  | nil => exact ⟨sound, .nil names⟩
  | append_singleton operations operation ih =>
    obtain ⟨before, told⟩ :=
      ih fun invocation member => clean invocation (List.mem_append_left _ member)
    obtain ⟨stays, settled⟩ := course_settled bounded operations
    rw [← settled.registry] at faultless
    have asked (invocation : Invocation) (begins : operation = .begin invocation) :
        invocation.Clean :=
      clean invocation (List.mem_append_right _ (List.mem_singleton.mpr begins.symm))
    obtain ⟨after, toldLater⟩ := before.perform stays faultless asked
    rw [course_concat]
    exact ⟨after, told.append toldLater⟩

end Tracker

namespace Settings

/-- Valid settings name a launcher without reserved characters. -/
theorem launcher_of_valid {settings : Settings} (valid : settings.validate = .ok ()) :
    hasReserved settings.make.editorLauncher = false := by
  -- The launcher is the last but one that is checked.
  unfold validate at valid
  repeat' split at valid
  all_goals simp_all

end Settings

namespace Builtin

/-- Every built-in factory is faultless under a clean launcher. -/
theorem factory_faultless {make : MakeSettings} (launcher : hasReserved make.editorLauncher = false)
    (settings : MatcherSettings) {builtin : Builtin} (member : builtin ∈ all) :
    (builtin.factory settings make).Faultless := by
  -- There is one case for each built-in matcher.
  simp only [all, List.mem_cons, List.not_mem_nil, or_false] at member
  rcases member with rfl | rfl | rfl | rfl | rfl | rfl | rfl | rfl
  · exact Listing.factory_faultless Docker.containers_safe settings
  · exact Listing.factory_faultless Docker.images_safe settings
  · exact Listing.factory_faultless Kubernetes.pods_safe settings
  · exact Listing.factory_faultless Kubernetes.deployments_safe settings
  · exact Listing.factory_faultless Machines.machines_safe settings
  · exact Listing.factory_faultless Machines.images_safe settings
  · exact WorkTree.factory_faultless settings
  · exact Make.factory_faultless settings launcher

end Builtin

namespace Registry

/-- The factory under a built-in name is the built-in one. -/
theorem Registered.builtin_of_provided {registry : Registry} (registered : registry.Registered)
    {settings : Settings}
    (provided : ∀ factory ∈ (builtins settings).1.factories, factory ∈ registry.factories)
    {factory : Factory} (member : factory ∈ registry.factories)
    (named : factory.name ∈ (builtins settings).1.names) : ∃ builtin ∈ Builtin.all,
      factory = builtin.factory (settings.matcher builtin.name) settings.make := by
  -- The built-in registry has the name, and its factories are all in the registry.
  obtain ⟨own, present, same⟩ := List.mem_map.mp named
  -- Two factories of one name would not both have been registered.
  have one : own = factory :=
    List.inj_on_of_nodup_map registered.names_nodup (provided own present) member same
  subst one
  exact mem_builtins present

/-- The factory under a built-in name is faultless. -/
theorem Registered.faultless_of_provided {registry : Registry} (registered : registry.Registered)
    {settings : Settings} (valid : settings.validate = .ok ())
    (provided : ∀ factory ∈ (builtins settings).1.factories, factory ∈ registry.factories)
    {factory : Factory} (member : factory ∈ registry.factories)
    (named : factory.name ∈ (builtins settings).1.names) : factory.Faultless := by
  -- No other factory has the name of a built-in one, and those are faultless.
  obtain ⟨builtin, known, rfl⟩ := registered.builtin_of_provided provided member named
  exact Builtin.factory_faultless (Settings.launcher_of_valid valid) _ known

end Registry

/--
No built-in matcher ever fails, whatever other matchers are registered and whatever rows arrive:
no call of one is recorded as failed, none is deactivated, each is granted every region that it
asks for, and the file that a status line names is a sound span at the end of the line.
-/
theorem builtins_never_fail {settings : Settings} (valid : settings.validate = .ok ())
    {registry : Registry} (registered : registry.Registered)
    (provided : ∀ factory ∈ (Registry.builtins settings).1.factories,
      factory ∈ registry.factories)
    {operations : List Operation}
    (clean : ∀ invocation, .begin invocation ∈ operations → invocation.Clean) :
    let names := (Registry.builtins settings).1.names
    let course := (Tracker.ofSettings registry settings).course operations
    (∀ name id call fault, name ∈ names →
        .called name id call (.failed fault) ∉ course.journal) ∧
      (∀ id running, course.tracker.running? id = some running →
        ∀ slot ∈ running.slots, slot.name ∈ names → slot.status ≠ .faulted) ∧
      (∀ builtin ∈ Builtin.all,
        (builtin.factory (settings.matcher builtin.name) settings.make).Faultless) ∧
      ∀ current part name (line : LogicalLine),
        WorkTree.read current line.text.toList = .file part name →
          Text.byteLength name ≤ line.length ∧
            Scene.spanSound line.text (line.length - Text.byteLength name) line.length = true := by
  -- The tracker begins without slots, so all are sound, and every operation keeps them so.
  intro names course
  have trusted (factory : Factory) (member : factory ∈ registry.factories) :
      factory.name ∈ names → factory.Faultless :=
    registered.faultless_of_provided valid provided member
  have idle : (Tracker.ofSettings registry settings).Sound names := by
    intro id running present
    simp [Tracker.ofSettings, Tracker.ofRegistry, Tracker.running?] at present
  have bounded : (Tracker.ofSettings registry settings).Bounded :=
    Tracker.bounded_ofRegistry registry settings.deferBuffered settings.limits
  obtain ⟨sound, spares⟩ := idle.course bounded trusted clean
  refine ⟨spares, fun id running present slot member named => ?_, fun builtin known => ?_, ?_⟩
  · exact (sound id running present slot member named).2
  · exact Builtin.factory_faultless (Settings.launcher_of_valid valid) _ known
  · exact fun current part name line reading => WorkTree.byteLength_le_of_read_file reading

/-- A status with a reserved character in one of its file names marks the other file. -/
theorem builtins_never_fail_status :
    let operations : List Operation :=
      [.begin { command := "git status", workingDir := "/w", server := "s" },
        .pushRow ⟨1⟩ "Untracked files:" false, .pushRow ⟨1⟩ "        a|b.rs" false,
        .pushRow ⟨1⟩ "        ab.rs" false, .finish ⟨1⟩ 0 3]
    ((Tracker.ofSettings (Registry.builtins {}).1 {}).course
        operations).tracker.table.regions.length = 1 ∧
      ∀ call fault, Entry.called "git-status" ⟨1⟩ call (.failed fault) ∉
        ((Tracker.ofSettings (Registry.builtins {}).1 {}).course operations).journal := by
  -- One name holds a delimiter and is passed over, and the other is marked.
  intro operations
  have valid : Settings.validate {} = .ok () := by decide
  have registered : (Registry.builtins {}).1.Registered :=
    Registry.builtins_registered {}
  have clean (invocation : Invocation) (member : .begin invocation ∈ operations) :
      invocation.Clean := by
    simp only [operations, List.mem_cons, Operation.begin.injEq, reduceCtorEq, List.not_mem_nil,
      or_false] at member
    subst member
    exact ⟨by decide, by decide⟩
  have named : "git-status" ∈ (Registry.builtins {}).1.names := by decide +kernel
  refine ⟨by decide +kernel, fun call fault => ?_⟩
  exact (builtins_never_fail valid registered (fun _ member => member) clean).1 _ _ call fault named

end Annotator

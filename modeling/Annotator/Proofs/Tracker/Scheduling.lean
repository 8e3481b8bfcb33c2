import Annotator.Proofs.Tracker.Concurrency
import Annotator.Proofs.Tracker.Faultless
import Annotator.Proofs.Tracker.Replay

/-! Scheduling decides when built-in matchers work, and not which regions they make. -/

namespace Annotator

open Coupling (Seats scheduled madeBy)

/-- What is done with the first invocation of a tracker from its beginning to its completion. -/
def Operation.whole (invocation : Invocation) (rows : List (String × Bool)) (exitCode : Int)
    (totalRows : Nat) : List Operation :=
  -- It is begun, receives all rows and is finished.
  .begin invocation :: rows.map (fun row => .pushRow .first row.1 row.2) ++
    [.finish .first exitCode totalRows]

namespace Tracker

variable {tracker : Tracker} {attachment : Attachment} {invocation : Invocation}

/-- A matcher that attaches to the first invocation stands with its rows as it does by itself. -/
theorem course_seats (bounded : tracker.Bounded) (distinct : tracker.registry.names.Nodup)
    (fresh : tracker.upcoming = .first) (empty : tracker.table = {})
    (attached : attachment ∈ (tracker.registry.resolve .first invocation).1)
    (same : (scheduled attachment.name).Matchers {} attachment.matcher attachment.matcher)
    {completed : Invocation} (starts : (scheduled attachment.name).starts invocation completed)
    (received : Array String) (rows : List (String × Bool)) :
    let reached := (tracker.course
      (.begin invocation :: rows.map fun row => .pushRow .first row.1 row.2)).tracker
    ∃ running, reached.running? .first = some running ∧
      Life.Mirrors { invocation, rows } (tracker.seated invocation) running ∧
      Seats attachment tracker.limits received completed (LineBuffer.assemble rows).1
        running.slots reached.table := by
  -- The induction adds the rows one by one.
  induction rows using List.reverseRecOn with
  | nil =>
    have names := (Registry.resolve_names tracker.registry .first invocation).nodup distinct
    have singles : Slot.Singles (attachAll tracker.deferBuffered .first invocation
        (tracker.registry.resolve .first invocation).1).1 attachment.name _ :=
      (attachAll_singles names attached).1
    have running := running?_perform_begin bounded invocation .first
    rw [if_pos fresh.symm, fresh] at running
    have mirrors (slots : List Slot) :
        (Life.after .first invocation []).Mirrors (slots.map (·.name)) { invocation, slots } :=
      Life.mirrors_begun invocation slots
    rw [List.map_nil, (course_singleton ..).1]
    refine ⟨_, running, ?_, ?_⟩
    · rw [seated, fresh]
      exact mirrors _
    · rw [perform_begin]
      dsimp only
      rw [empty]
      refine ⟨{}, _, singles, ?_⟩
      exact .seat same starts (.fresh (by simp) (by simp)) received _ _
  | append_singleton rows row ih =>
    obtain ⟨running, present, mirrors, seats⟩ := ih
    have limits := (course_settled bounded
      (.begin invocation :: rows.map fun row => .pushRow .first row.1 row.2)).2.limits
    have lines := LineBuffer.assemble_concat rows row.1 row.2
    have buffer : running.buffer = (LineBuffer.assemble rows).2 := mirrors.buffer
    rw [List.map_append, List.map_singleton, ← List.cons_append, course_concat,
      Course.follow_tracker, perform_pushRow present]
    refine ⟨_, running?_update_self present _ _, mirrors.push _ _ row.1 row.2, ?_⟩
    rw [limits, Running.push_eq, lines, ← buffer]
    let grown : Running := { running with
      buffer := (running.buffer.push row.1 row.2).2
      rows := running.rows.push row.1 }
    have before : Seats attachment tracker.limits received completed (LineBuffer.assemble rows).1
        grown.slots (tracker.course
          (.begin invocation :: rows.map fun row => .pushRow .first row.1 row.2)).tracker.table :=
      seats
    exact before.deliverIfAny (running.buffer.push row.1 row.2).1

/-- Whatever the scheduling, a matcher leaves the regions that it makes by itself. -/
theorem course_replayed (bounded : tracker.Bounded) (distinct : tracker.registry.names.Nodup)
    (fresh : tracker.upcoming = .first) (empty : tracker.table = {})
    (attached : attachment ∈ (tracker.registry.resolve .first invocation).1)
    (same : (scheduled attachment.name).Matchers {} attachment.matcher attachment.matcher)
    {exitCode : Int}
    (starts : (scheduled attachment.name).starts invocation
      { invocation with exitCode := some exitCode })
    (rows : List (String × Bool)) (totalRows : Nat) :
    let life : Life := { invocation, rows }
    ∃ pairing, (scheduled attachment.name).Tables pairing tracker.limits (madeBy attachment.name)
      (tracker.course (Operation.whole invocation rows exitCode totalRows)).tracker.table
      (attachment.replayed tracker.limits life.received
        { invocation with exitCode := some exitCode }
        (life.assembled.1 ++ life.assembled.2.flush.1.toList) totalRows).2.1 := by
  -- The matcher has been seated and has followed the rows, so it only remains to complete.
  intro life
  obtain ⟨running, present, mirrors, seats⟩ :=
    course_seats bounded distinct fresh empty attached same starts life.received rows
  have limits := (course_settled bounded
    (.begin invocation :: rows.map fun row => .pushRow .first row.1 row.2)).2.limits
  rw [Operation.whole, course_concat, Course.follow_tracker, perform_finish present, limits]
  exact Seats.complete seats mirrors totalRows

end Tracker

/-- Two factories are the same but for their scheduling. -/
def Factory.Rescheduled (factory other : Factory) : Prop :=
  -- Names, policies, decisions and matchers are the same.
  ∃ fast, other = { factory with fast }

/-- Two attachments are the same but for their scheduling. -/
def Attachment.Rescheduled (attachment other : Attachment) : Prop :=
  -- Names, policies and matchers are the same.
  ∃ fast, other = { attachment with fast }

namespace Registry

variable {id : InvocationId} {invocation : Invocation}

/-- Factories that are the same but for their scheduling attach the same but for it. -/
theorem consult_rescheduled {factory other : Factory} (same : factory.Rescheduled other)
    (site : Site) :
    (consult factory id invocation site).1.toList.Forall₂ Attachment.Rescheduled
      (consult other id invocation site).1.toList := by
  -- The factories accept and build alike.
  obtain ⟨fast, rfl⟩ := same
  obtain ⟨name, _, finishPolicy, accepts, create⟩ := factory
  unfold consult
  dsimp only
  cases accepts site.command invocation.workingDir with
  | error fault => exact .nil
  | ok wanted =>
    cases wanted with
    | false => exact .nil
    | true =>
      cases create site with
      | mk notes built =>
        cases built with
        | error text => exact .nil
        | ok matcher => exact .cons ⟨fast, rfl⟩ .nil

/-- Registries that are the same but for scheduling attach the same but for it. -/
theorem resolve_rescheduled {registry other : Registry}
    (same : registry.factories.Forall₂ Factory.Rescheduled other.factories) :
    (registry.resolve id invocation).1.Forall₂ Attachment.Rescheduled
      (other.resolve id invocation).1 := by
  -- Induction on the factories, which are consulted one by one.
  rw [resolve_eq, resolve_eq]
  split
  · exact .nil
  · generalize registry.factories = factories, other.factories = others at same ⊢
    induction same with
    | nil => exact .nil
    | cons first _ ih => exact List.rel_append (consult_rescheduled first _) ih

end Registry

/-- Two settings are the same but for what decides the scheduling. -/
structure Settings.Rescheduled (one other : Settings) : Prop where
  /-- The limits are the same. -/
  limits : one.limits = other.limits
  /-- The settings for builds are the same. -/
  make : one.make = other.make
  /-- The settings of each matcher are the same but for the override of its scheduling. -/
  matcher : ∀ name, ∃ fast, other.matcher name = { one.matcher name with fast }

namespace Builtin

/-- A built-in factory is the same but for its scheduling when its settings are. -/
theorem factory_rescheduled {builtin : Builtin} (known : builtin ∈ all)
    (settings : MatcherSettings) (make : MakeSettings) (fast : Option Bool) :
    (builtin.factory settings make).Rescheduled (builtin.factory { settings with fast } make) := by
  -- Six of the eight are listings.
  simp only [all, List.mem_cons, List.not_mem_nil, or_false] at known
  rcases known with rfl | rfl | rfl | rfl | rfl | rfl | rfl | rfl <;> exact ⟨_, rfl⟩

end Builtin

namespace Settings

/-- The tracker of the built-in matchers under given settings. -/
def tracker (settings : Settings) : Tracker :=
  -- No other matcher is registered.
  .ofSettings (Registry.builtins settings).1 settings

/-- The regions that built-in matchers make of a whole invocation under given settings. -/
def regions (settings : Settings) (invocation : Invocation) (rows : List (String × Bool))
    (exitCode : Int) (totalRows : Nat) : List Region :=
  -- The tracker is fresh.
  (settings.tracker.course
    (Operation.whole invocation rows exitCode totalRows)).tracker.table.regions

variable {one other : Settings} {invocation : Invocation}

/-- Under either settings the same matchers are enabled. -/
theorem Rescheduled.isEnabled (rescheduled : one.Rescheduled other) (name : String) :
    one.isEnabled name = other.isEnabled name := by
  -- Whether a matcher is enabled is none of what has changed.
  obtain ⟨fast, changed⟩ := rescheduled.matcher name
  rw [Settings.isEnabled, Settings.isEnabled, changed]

/-- Under either settings the same matchers attach. -/
theorem Rescheduled.resolve (rescheduled : one.Rescheduled other) (id : InvocationId)
    (invocation : Invocation) :
    (one.tracker.registry.resolve id invocation).1.Forall₂ Attachment.Rescheduled
      (other.tracker.registry.resolve id invocation).1 :=
  -- The same matchers are enabled, each with another schedule at most.
  Registry.resolve_rescheduled
    (Registry.forall₂_builtins rescheduled.isEnabled fun builtin known => by
      obtain ⟨fast, changed⟩ := rescheduled.matcher builtin.name
      rw [Builtin.under, Builtin.under, changed, ← rescheduled.make]
      exact Builtin.factory_rescheduled known (one.matcher builtin.name) one.make fast)

/-- The names of the built-in matchers are distinct. -/
theorem tracker_names_nodup (settings : Settings) : settings.tracker.registry.names.Nodup :=
  -- The registry was filled by registrations.
  (Registry.builtins_registered settings).names_nodup

/-- A matcher that attaches was built by the factory of a built-in matcher and bears its name. -/
theorem attached_built {settings : Settings} {id : InvocationId} {attachment : Attachment}
    (attached : attachment ∈ (settings.tracker.registry.resolve id invocation).1) :
    ∃ builtin ∈ Builtin.all, ∃ notes,
      (builtin.factory (settings.matcher builtin.name) settings.make).create
          (Registry.siteOf invocation) = (notes, .ok attachment.matcher) ∧
        attachment.name = builtin.name := by
  -- All factories are built-in ones.
  obtain ⟨factory, member, notes, built, named⟩ :
      ∃ factory ∈ settings.tracker.registry.factories, ∃ notes,
        factory.create (Registry.siteOf invocation) = (notes, .ok attachment.matcher) ∧
          attachment.name = factory.name := Registry.resolve_built attached
  obtain ⟨builtin, known, rfl⟩ := Registry.mem_builtins member
  exact ⟨builtin, known, notes, built, named.trans (Builtin.factory_name known _ _)⟩

/-- What a built-in matcher that attached does is the same under any scheduling. -/
theorem attached_scheduled {settings : Settings} {id : InvocationId} {attachment : Attachment}
    (attached : attachment ∈ (settings.tracker.registry.resolve id invocation).1) :
    (scheduled attachment.name).Matchers {} attachment.matcher attachment.matcher := by
  -- All matchers are built-in ones.
  obtain ⟨builtin, known, notes, built, named⟩ := attached_built attached
  rw [named]
  exact Builtin.factory_scheduled known _ _ _ built

/-- A region bears the name of a matcher that attached to the invocation. -/
theorem regions_attached {settings : Settings} {rows : List (String × Bool)} {exitCode : Int}
    {totalRows : Nat} {region : Region}
    (member : region ∈ settings.regions invocation rows exitCode totalRows) :
    ∃ attachment ∈ (settings.tracker.registry.resolve .first invocation).1,
      attachment.name = region.matcher := by
  -- A region was made for an invocation that began in the course, which is the only one.
  obtain ⟨_, _, before, begun, between, operation, after, split, created⟩ :=
    (settings.tracker.course_regions (fun _ => rfl) rfl _).2 region member
  have listed : .begin begun ∈ Operation.whole invocation rows exitCode totalRows := by
    rw [split]
    simp
  have same : begun = invocation := by
    simpa [Operation.whole] using listed
  subst same
  obtain ⟨attachment, attached, named⟩ := created.matcher
  rw [(Registry.resolve_readdressed region.invocation .first begun _).1] at attached
  exact ⟨attachment, attached, named⟩

end Settings

/-- Regions that were each compared with those that a matcher makes by itself are linked. -/
theorem linked_of_tables {name : String} {pairing later : Pairing} {limits : Limits}
    {table other alone : RegionTable}
    (first : (scheduled name).Tables pairing limits (madeBy name) table alone)
    (second : (scheduled name).Tables later limits (madeBy name) other alone) :
    Linked (Meet pairing.Paired later.Paired) name table.regions other.regions where
  -- Both tables are compared with the one that the matcher makes when it replays alone.
  same := by
    have own : ∀ region ∈ table.regions.filter (madeBy name), region.matcher = name :=
      fun region member => beq_iff_eq.mp (List.mem_filter.mp member).2
    have made := (List.forall₂_and_left _ _).mpr ⟨own, first.regions⟩
    refine forall₂_meet (fun region partner third => ?_) made second.regions
    rintro ⟨named, same⟩ equal
    obtain ⟨given, third, offers, cut, thirdCut⟩ := same.metadata
    obtain ⟨otherGiven, otherThird, otherOffers, otherCut, otherThirdCut⟩ := equal.metadata
    refine ⟨⟨_, same.id, equal.id⟩, same.host.trans equal.host.symm,
      same.matcher.trans equal.matcher.symm, same.start.trans equal.start.symm,
      same.stop.trans equal.stop.symm, ?_⟩
    have shown := Metadata.RenumberedFor.limited offers limits
    have otherShown := Metadata.RenumberedFor.limited otherOffers limits
    rw [← cut, ← thirdCut] at shown
    rw [← otherCut, ← otherThirdCut] at otherShown
    rw [named]
    exact shown.meet otherShown
  ascending := by
    rintro one other firstId secondId ⟨third, linked, otherLinked⟩ ⟨fourth, holds, otherHolds⟩
    exact (linked.lt_iff holds).trans (otherLinked.lt_iff otherHolds).symm
  apart := by
    rintro one other ⟨third, linked, _⟩ region member same
    exact beq_iff_eq.mp (first.apart one third linked region member same)
  otherApart := by
    rintro one other ⟨third, _, linked⟩ region member same
    exact beq_iff_eq.mp (second.apart other third linked region member same)

/-- Under either settings a matcher makes the same regions, up to linked numbers. -/
theorem Settings.Rescheduled.linked {one other : Settings} (rescheduled : one.Rescheduled other)
    (name : String) {invocation : Invocation} {exitCode : Int}
    (starts : name ≠ Make.matcherName → invocation.mayHaveSucceeded =
      Invocation.mayHaveSucceeded { invocation with exitCode := some exitCode })
    (rows : List (String × Bool)) (totalRows : Nat) :
    ∃ link, Linked link name (one.regions invocation rows exitCode totalRows)
      (other.regions invocation rows exitCode totalRows) := by
  -- The matcher attaches under both settings or under neither.
  have same := rescheduled.resolve .first invocation
  by_cases attaches : ∃ attachment ∈ (one.tracker.registry.resolve .first invocation).1,
      attachment.name = name
  · obtain ⟨attachment, attached, rfl⟩ := attaches
    obtain ⟨_, otherAttached, fast, rfl⟩ := partner_of_mem same attached
    have bounded (settings : Settings) : settings.tracker.Bounded :=
      Tracker.bounded_ofRegistry _ _ _
    -- By itself the matcher does the same on both sides.
    obtain ⟨pairing, tables⟩ := Tracker.course_replayed (bounded one) one.tracker_names_nodup rfl
      rfl attached (attached_scheduled attached) starts rows totalRows
    obtain ⟨later, otherTables⟩ := Tracker.course_replayed (bounded other)
      other.tracker_names_nodup rfl rfl otherAttached (attached_scheduled otherAttached)
      starts rows totalRows
    have limits : other.tracker.limits = one.tracker.limits := rescheduled.limits.symm
    rw [limits] at otherTables
    exact ⟨_, linked_of_tables tables otherTables⟩
  · refine ⟨_, .absent (fun region member named => attaches ?_)
      fun region member named => attaches ?_⟩
    · obtain ⟨attachment, attached, bears⟩ := regions_attached member
      exact ⟨attachment, attached, bears.trans named⟩
    · obtain ⟨attachment, attached, bears⟩ := regions_attached member
      obtain ⟨partner, present, fast, equal⟩ := partner_of_mem (List.Forall₂.flip same) attached
      subst equal
      exact ⟨partner, present, bears.trans named⟩

/--
Scheduling does not change the annotations: under settings that are the same but for what decides
the scheduling, the regions that the built-in matchers make of an invocation correspond through a
renumbering that keeps the order within each matcher, if the invocation is begun with an exit code
that is unknown or zero and completes with zero. The regions of the build matcher correspond
whatever the exit codes.
-/
theorem scheduling_keeps_regions {one other : Settings} (rescheduled : one.Rescheduled other)
    (invocation : Invocation) (rows : List (String × Bool)) (totalRows : Nat) :
    (invocation.exitCode = none ∨ invocation.exitCode = some 0 →
      ∃ renumber, Correspond renumber (one.regions invocation rows 0 totalRows)
        (other.regions invocation rows 0 totalRows)) ∧
      ∀ exitCode, ∃ renumber, Correspond renumber
        ((one.regions invocation rows exitCode totalRows).filter
          (·.matcher == Make.matcherName))
        ((other.regions invocation rows exitCode totalRows).filter
          (·.matcher == Make.matcherName)) := by
  -- Each matcher has its own link of numbers, and together they make one renumbering.
  refine ⟨fun known => correspond_of_linked fun name => ?_,
    fun exitCode => correspond_of_linked fun name => ?_⟩
  · refine rescheduled.linked name (fun _ => ?_) rows totalRows
    unfold Invocation.mayHaveSucceeded
    rcases known with none | zero
    · rw [none]
      rfl
    · rw [zero]
  · by_cases build : name = Make.matcherName
    · subst build
      obtain ⟨link, linked⟩ :=
        rescheduled.linked Make.matcherName (fun other => absurd rfl other) rows totalRows
      exact ⟨link, linked.alone⟩
    · have foreign (regions : List Region) :
          ∀ region ∈ regions.filter (·.matcher == Make.matcherName), region.matcher ≠ name :=
        fun region member named =>
          build (named.symm.trans (beq_iff_eq.mp (List.mem_filter.mp member).2))
      exact ⟨_, .absent (foreign _) (foreign _)⟩

/-- A listing that takes lines as they arrive shifts the numbers that a build's regions refer to. -/
theorem scheduling_keeps_regions_listing :
    let settings (fast : Option Bool) : Settings :=
      { matchers := .ofList [(Docker.containers.name, { aliases := ["make all"], fast })] }
    let invocation : Invocation := { command := "make all" }
    let rows := [("CONTAINER ID NAMES", false), ("c0ffee web", false),
      ("a.c:1: error: bad", false), ("make: *** Waiting for unfinished jobs....", false)]
    let regions := (settings none).regions invocation rows 0 4
    let others := (settings (some true)).regions invocation rows 0 4
    let jumps (target : Nat) (regions : List Region) :=
      (regions.filter fun region => region.metadata.primaryAction ==
        (Make.describeJump ⟨target⟩).primaryAction).map (·.id.number)
    regions.map (·.matcher) = ["make", "make", "docker-ps", "docker-ps", "docker-ps", "make"] ∧
      others.map (·.matcher) = ["docker-ps", "docker-ps", "make", "docker-ps", "make", "make"] ∧
      jumps 1 regions = [2, 6] ∧ jumps 3 others = [5, 6] ∧
      ∃ renumber, Correspond renumber regions others := by
  -- What the two courses leave is computed, and the renumbering comes from the theorem.
  intro settings invocation rows regions others jumps
  refine ⟨by decide +kernel, by decide +kernel, by decide +kernel, by decide +kernel, ?_⟩
  have rescheduled : (settings none).Rescheduled (settings (some true)) := by
    refine ⟨rfl, rfl, fun name => ?_⟩
    -- Only one matcher has settings.
    by_cases listed : name = Docker.containers.name
    · exact ⟨some true, by subst listed; decide⟩
    · refine ⟨none, ?_⟩
      have absent (fast : Option Bool) : (settings fast).matcher name = {} := by
        have unlisted : (settings fast).matchers.find? name = none := by
          refine List.lookup_eq_none_iff.mpr fun entry member => ?_
          rw [List.mem_singleton.mp member]
          exact bne_iff_ne.mpr listed
        rw [Settings.matcher, unlisted]
        rfl
      rw [absent, absent]
  -- What the matchers do on these rows is of no concern from here on.
  clear_value settings
  exact (scheduling_keeps_regions rescheduled invocation rows 4).1 (.inl rfl)

end Annotator

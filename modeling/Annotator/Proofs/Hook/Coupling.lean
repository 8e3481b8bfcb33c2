import Annotator.Proofs.Hook.Alike

/-!
Two courses are coupled when a matcher does among others, in one of them, what it does by itself in
the other one. How far the two may differ is left open, so that several comparisons share what
follows from it.
-/

namespace Annotator

/-- The invocation that a fresh tracker begins first. -/
def InvocationId.first : InvocationId :=
  -- Numbers are issued from one upwards.
  ⟨1⟩

/-- How far what is done among others may differ from what is done by oneself. -/
structure Coupling where
  /-- The invocation among others, which by itself is the first one. -/
  host : InvocationId
  /-- Metadata that may stand for other metadata while numbers are paired. -/
  offers : Pairing → Metadata → Metadata → Prop
  /-- Errors that may stand for each other while numbers are paired. -/
  errors : Pairing → RegionError → RegionError → Prop
  /-- Invocations that may stand for each other when matchers are started. -/
  starts : Invocation → Invocation → Prop
  /-- Lines are taken at the same moments, when the same rows have been received. -/
  inStep : Prop
  /-- More pairs make no fewer metadata stand for each other. -/
  offers_mono : ∀ {pairing later : Pairing} {one other : Metadata}, pairing.Within later →
    offers pairing one other → offers later one other
  /-- Metadata that stand for each other are valid alike. -/
  offers_validate : ∀ {pairing : Pairing} {one other : Metadata}, offers pairing one other →
    Agree (fun error otherError => errors pairing (.invalidAction error)
      (.invalidAction otherError)) (fun _ _ => True) one.validate other.validate
  /-- Every error stands for itself. -/
  errors_refl : ∀ (pairing : Pairing) (error : RegionError), errors pairing error error
  /-- In step, matchers are started with the same invocation. -/
  starts_eq : ∀ {one other : Invocation}, inStep → starts one other → one = other

namespace Coupling

/--
Two programs are coupled when they do the same as far as it may not differ.

Where rows may differ, no region is created between positions.
-/
inductive Programs (coupling : Coupling) {α : Type} (related : Pairing → α → α → Prop)
    (sameRows : Prop) : Pairing → Program α → Program α → Prop
  /-- Both reach related values. -/
  | done {pairing : Pairing} {value other : α} (same : related pairing value other) :
    Programs coupling related sameRows pairing (.done value) (.done other)
  /-- Both leave a note. -/
  | tell {pairing : Pairing} (note otherNote : Note) {next other : Program α}
    (onward : Programs coupling related sameRows pairing next other) :
    Programs coupling related sameRows pairing (.tell note next) (.tell otherNote other)
  /-- Both reserve a number, and the numbers are paired from then on. -/
  | reserve {pairing : Pairing} {next other : RegionId → Program α}
    (onward : ∀ later : Pairing, pairing.Within later → ∀ first second, later.Paired first second →
      Programs coupling related sameRows later (next first) (other second)) :
    Programs coupling related sameRows pairing (.reserve next) (.reserve other)
  /-- Both create a region over the same bytes, and the answers agree. -/
  | create {pairing : Pairing} (start stop : Nat) {metadata otherMetadata : Metadata}
    {next other : Except RegionError RegionId → Program α}
    (offers : coupling.offers pairing metadata otherMetadata)
    (onward : ∀ later : Pairing, pairing.Within later → ∀ answer otherAnswer,
      Agree (coupling.errors later) later.Paired answer otherAnswer →
        Programs coupling related sameRows later (next answer) (other otherAnswer)) :
    Programs coupling related sameRows pairing (.create start stop metadata next)
      (.create start stop otherMetadata other)
  /-- Both create a region between the same positions of the same rows, and the answers agree. -/
  | createAt {pairing : Pairing} (rows : sameRows) (start stop : Position)
    {metadata otherMetadata : Metadata} {next other : Except RegionError RegionId → Program α}
    (offers : coupling.offers pairing metadata otherMetadata)
    (onward : ∀ later : Pairing, pairing.Within later → ∀ answer otherAnswer,
      Agree (coupling.errors later) later.Paired answer otherAnswer →
        Programs coupling related sameRows later (next answer) (other otherAnswer)) :
    Programs coupling related sameRows pairing (.createAt start stop metadata next)
      (.createAt start stop otherMetadata other)

/-- A region among others is the one that is made by oneself, up to what may differ. -/
structure Regions (coupling : Coupling) (pairing : Pairing) (limits : Limits)
    (region other : Region) : Prop where
  /-- Their numbers are paired. -/
  id : pairing.Paired region.id other.id
  /-- Among others the region marks the output of the host. -/
  host : region.invocation = coupling.host
  /-- By itself it marks the output of the first invocation. -/
  first : other.invocation = .first
  /-- The matchers have the same name. -/
  matcher : region.matcher = other.matcher
  /-- The regions begin at the same place. -/
  start : region.start = other.start
  /-- The regions end at the same place. -/
  stop : region.stop = other.stop
  /-- What they show is cut from metadata that stand for each other. -/
  metadata : ∃ given otherGiven, coupling.offers pairing given otherGiven ∧
    region.metadata = given.limited limits ∧ other.metadata = otherGiven.limited limits

/-- The own regions of a table among others are all regions of a table by itself. -/
structure Tables (coupling : Coupling) (pairing : Pairing) (limits : Limits)
    (own : Region → Bool) (table other : RegionTable) : Prop where
  /-- The own regions are the same, one by one. -/
  regions : (table.regions.filter own).Forall₂ (coupling.Regions pairing limits) other.regions
  /-- Only issued numbers are paired. -/
  issued : ∀ first second, pairing.Paired first second →
    first.number < table.nextId ∧ second.number < other.nextId
  /-- No number that is paired is the number of a foreign region. -/
  apart : ∀ first second, pairing.Paired first second → ∀ region ∈ table.regions,
    region.id = first → own region = true
  /-- Regions have issued numbers. -/
  below : ∀ region ∈ table.regions, region.id.number < table.nextId

/-- Two desks are coupled when their tables are and their reservations are paired. -/
structure Desks (coupling : Coupling) (pairing : Pairing) (limits : Limits)
    (own : Region → Bool) (desk other : Desk) : Prop where
  /-- The tables are coupled. -/
  table : coupling.Tables pairing limits own desk.table other.table
  /-- The reserved numbers are paired. -/
  reserved : Option.Rel pairing.Paired desk.reserved other.reserved

/-- Two events are coupled when they see the same line and, where that matters, the same rows. -/
structure Scenes (coupling : Coupling) (own : Region → Bool) (sameRows : Prop)
    (scene other : Scene) : Prop where
  /-- Among others the event is one of the host. -/
  host : scene.invocation = coupling.host
  /-- By itself it is one of the first invocation. -/
  first : other.invocation = .first
  /-- The same matcher acts. -/
  matcher : scene.matcher = other.matcher
  /-- The limits are the same. -/
  limits : scene.limits = other.limits
  /-- The line is the same. -/
  line : scene.line = other.line
  /-- The rows are the same where programs may refer to them. -/
  rows : sameRows → scene.rows = other.rows
  /-- What the matcher makes for the host is its own. -/
  owned : ∀ region : Region, region.invocation = coupling.host →
    region.matcher = scene.matcher → own region = true

variable {coupling : Coupling} {pairing later : Pairing} {limits : Limits} {own : Region → Bool}
  {table other : RegionTable}

/-- Regions stay coupled when more numbers are paired. -/
theorem Regions.mono (within : pairing.Within later) {region other : Region}
    (same : coupling.Regions pairing limits region other) :
    coupling.Regions later limits region other := by
  -- Only the numbers and the metadata depend on the pairs.
  obtain ⟨given, otherGiven, offers, cut, otherCut⟩ := same.metadata
  exact { same with
    id := within same.id
    metadata := ⟨given, otherGiven, coupling.offers_mono within offers, cut, otherCut⟩ }

/-- Before anything is done, tables are coupled. -/
theorem Tables.fresh (foreign : ∀ region ∈ table.regions, own region = false)
    (below : ∀ region ∈ table.regions, region.id.number < table.nextId) :
    coupling.Tables {} limits own table {} where
  -- No number is paired yet, and no region among others is an own one.
  regions := by
    have none : table.regions.filter own = [] :=
      List.filter_eq_nil_iff.mpr fun region member => by simp [foreign region member]
    rw [none]
    exact .nil
  issued first second paired := by simp [Pairing.Paired] at paired
  apart first second paired := by simp [Pairing.Paired] at paired
  below := below

/-- Tables stay coupled while foreign regions are added among others. -/
theorem Tables.grows (same : coupling.Tables pairing limits own table other)
    {grown : RegionTable} (grows : table.Grows (fun region => own region = false) grown) :
    coupling.Tables pairing limits own grown other := by
  -- New regions are foreign and have new numbers, so nothing that was paired is touched.
  refine ⟨?_, fun first second paired => ?_, ?_, fun region member => ?_⟩
  · obtain ⟨_, created, split, foreign⟩ := grows
    have none : created.filter own = [] :=
      List.filter_eq_nil_iff.mpr fun region member => by simp [(foreign region member).1]
    rw [split, List.filter_append, none, List.append_nil]
    exact same.regions
  · obtain ⟨low, high⟩ := same.issued first second paired
    exact ⟨Nat.lt_of_lt_of_le low grows.numbers, high⟩
  · intro first second paired region member named
    rcases grows.mem member with old | ⟨_, above, _⟩
    · exact same.apart first second paired region old named
    · -- A new region has a number that was not issued before.
      have issued := (same.issued first second paired).1
      rw [← named] at issued
      exact absurd issued (Nat.not_lt.mpr above)
  · rcases grows.mem member with old | ⟨_, _, issued⟩
    · exact Nat.lt_of_lt_of_le (same.below region old) grows.numbers
    · exact issued

/-- Numbers allocated on both sides are paired from then on. -/
theorem Tables.allocate (same : coupling.Tables pairing limits own table other) :
    ∃ later, pairing.Within later ∧ later.Paired table.allocate.1 other.allocate.1 ∧
      coupling.Tables later limits own table.allocate.2 other.allocate.2 := by
  -- Both numbers are larger than all that were paired before.
  let later := pairing.extend table.allocate.1 other.allocate.1 same.issued
  have within : pairing.Within later := List.subset_append_left _ _
  have paired : later.Paired table.allocate.1 other.allocate.1 :=
    Pairing.paired_extend.mpr (.inr ⟨rfl, rfl⟩)
  refine ⟨later, within, paired, ?_, fun first second known => ?_,
    fun first second known region member named => ?_, fun region member => ?_⟩
  · exact same.regions.imp fun _ _ region => region.mono within
  · rcases Pairing.paired_extend.mp known with old | ⟨rfl, rfl⟩
    · obtain ⟨low, high⟩ := same.issued first second old
      exact ⟨Nat.lt_succ_of_lt low, Nat.lt_succ_of_lt high⟩
    · exact ⟨Nat.lt_succ_self _, Nat.lt_succ_self _⟩
  · rcases Pairing.paired_extend.mp known with old | ⟨rfl, rfl⟩
    · exact same.apart first second old region member named
    · -- No region has the number yet.
      have issued := same.below region member
      rw [named] at issued
      exact absurd issued (Nat.lt_irrefl _)
  · -- A number more is issued, and no region is made.
    exact Nat.lt_succ_of_lt (same.below region member)

/-- Tables stay coupled when one region is made on both sides. -/
theorem Tables.insert (same : coupling.Tables pairing limits own table other)
    {region otherRegion : Region} (made : coupling.Regions pairing limits region otherRegion)
    (owned : own region = true) :
    coupling.Tables pairing limits own (table.insert region) (other.insert otherRegion) := by
  -- The new regions stand behind the old ones on both sides.
  refine ⟨?_, same.issued, fun first second paired held member named => ?_,
    fun held member => ?_⟩
  · show List.Forall₂ _ ((table.regions ++ [region]).filter own) (other.regions ++ [otherRegion])
    rw [List.filter_append, List.filter_cons_of_pos owned]
    exact List.rel_append same.regions (.cons made .nil)
  · rcases List.mem_append.mp member with old | new
    · exact same.apart first second paired held old named
    · rw [List.mem_singleton.mp new]
      exact owned
  · rcases List.mem_append.mp member with old | new
    · exact same.below held old
    · rw [List.mem_singleton.mp new]
      exact (same.issued _ _ made.id).1

variable {desk otherDesk : Desk}

/-- Numbers reserved on both sides are paired. -/
theorem Desks.reserve (same : coupling.Desks pairing limits own desk otherDesk) :
    ∃ later, pairing.Within later ∧ later.Paired desk.reserve.1 otherDesk.reserve.1 ∧
      coupling.Desks later limits own desk.reserve.2 otherDesk.reserve.2 := by
  -- A number that is reserved already is handed out again on both sides, as the reservations agree.
  obtain ⟨table, reserved⟩ := same
  obtain ⟨held, standing⟩ := desk
  obtain ⟨otherHeld, otherStanding⟩ := otherDesk
  cases reserved with
  | some paired => exact ⟨pairing, .refl pairing, paired, table, .some paired⟩
  | none =>
    obtain ⟨later, within, paired, tables⟩ := table.allocate
    exact ⟨later, within, paired, tables, .some paired⟩

/-- Numbers claimed on both sides are paired, and no reservation is left. -/
theorem Desks.claim (same : coupling.Desks pairing limits own desk otherDesk) :
    ∃ later, pairing.Within later ∧ later.Paired desk.claim.1 otherDesk.claim.1 ∧
      coupling.Tables later limits own desk.claim.2.table otherDesk.claim.2.table := by
  -- The reserved number is claimed if there is one, on both sides or on neither.
  obtain ⟨table, reserved⟩ := same
  obtain ⟨held, standing⟩ := desk
  obtain ⟨otherHeld, otherStanding⟩ := otherDesk
  cases reserved with
  | some paired => exact ⟨pairing, .refl pairing, paired, table⟩
  | none => exact table.allocate

/-- Two creations are settled alike when their answers agree and they leave coupled desks. -/
structure Settled (coupling : Coupling) (pairing : Pairing) (limits : Limits)
    (own : Region → Bool) (settled other : Except RegionError RegionId × Desk) : Prop where
  /-- The answers agree. -/
  answer : Agree (coupling.errors pairing) pairing.Paired settled.1 other.1
  /-- The desks are coupled. -/
  desk : coupling.Desks pairing limits own settled.2 other.2

/-- Creations that are rejected alike are settled alike. -/
theorem Desks.rejected (same : coupling.Desks pairing limits own desk otherDesk)
    {error otherError : RegionError} (reason : coupling.errors pairing error otherError) :
    ∃ later, pairing.Within later ∧ coupling.Settled later limits own
      (desk.settle (.error error)) (otherDesk.settle (.error otherError)) :=
  -- A rejection leaves the desks as they are.
  ⟨pairing, .refl pairing, .error reason, same⟩

variable {sameRows : Prop} {scene otherScene : Scene} {metadata otherMetadata : Metadata}

/-- Placing metadata that stand for each other is settled alike. -/
theorem Scenes.place (scenes : coupling.Scenes own sameRows scene otherScene)
    (same : coupling.Desks pairing scene.limits own desk otherDesk)
    (offers : coupling.offers pairing metadata otherMetadata) (start stop : Position) :
    ∃ later, pairing.Within later ∧ coupling.Settled later scene.limits own
      (desk.settle (scene.place desk start stop metadata))
      (otherDesk.settle (otherScene.place otherDesk start stop otherMetadata)) := by
  -- Metadata that stand for each other are valid alike, so both are refused or both are placed.
  have checked := coupling.offers_validate offers
  unfold Scene.place
  generalize metadata.validate = answer, otherMetadata.validate = otherAnswer at checked ⊢
  cases checked with
  | error reason => exact same.rejected reason
  | ok _ =>
    obtain ⟨later, within, paired, tables⟩ := same.claim
    have made : coupling.Regions later scene.limits
        (scene.drawn desk.claim.1 start stop metadata)
        (otherScene.drawn otherDesk.claim.1 start stop otherMetadata) :=
      ⟨paired, scenes.host, scenes.first, scenes.matcher, rfl, rfl, metadata, otherMetadata,
        coupling.offers_mono within offers, rfl, by rw [scenes.limits]; rfl⟩
    refine ⟨later, within, .ok paired, tables.insert made (scenes.owned _ scenes.host rfl), ?_⟩
    show Option.Rel _ desk.claim.2.reserved otherDesk.claim.2.reserved
    rw [desk.claim_reserved, otherDesk.claim_reserved]
    exact .none

/-- Creating on the current line is settled alike. -/
theorem Scenes.createOnLine (scenes : coupling.Scenes own sameRows scene otherScene)
    (same : coupling.Desks pairing scene.limits own desk otherDesk)
    (offers : coupling.offers pairing metadata otherMetadata) (start stop : Nat) :
    ∃ later, pairing.Within later ∧ coupling.Settled later scene.limits own
      (desk.settle (scene.createOnLine desk start stop metadata))
      (otherDesk.settle (otherScene.createOnLine otherDesk start stop otherMetadata)) := by
  -- The line is the same on both sides, so the checks in front go the same way.
  unfold Scene.createOnLine
  rw [← scenes.line]
  split
  · exact same.rejected (coupling.errors_refl _ _)
  · split
    · exact scenes.place same offers _ _
    · exact same.rejected (coupling.errors_refl _ _)

/-- Creating between positions of the same rows is settled alike. -/
theorem Scenes.createAt (scenes : coupling.Scenes own sameRows scene otherScene)
    (rows : sameRows) (same : coupling.Desks pairing scene.limits own desk otherDesk)
    (offers : coupling.offers pairing metadata otherMetadata) (start stop : Position) :
    ∃ later, pairing.Within later ∧ coupling.Settled later scene.limits own
      (desk.settle (scene.createAt desk start stop metadata))
      (otherDesk.settle (otherScene.createAt otherDesk start stop otherMetadata)) := by
  -- The rows are the same on both sides, so the checks in front go the same way.
  have received := scenes.rows rows
  have held (position : Position) : otherScene.holds position = scene.holds position := by
    simp only [Scene.holds, received]
  have heldEnd (position : Position) : otherScene.holdsEnd position = scene.holdsEnd position := by
    simp only [Scene.holdsEnd, held, received]
  unfold Scene.createAt Scene.rowSize
  rw [held, heldEnd, ← received]
  split
  · exact same.rejected (coupling.errors_refl _ _)
  · split
    · exact same.rejected (coupling.errors_refl _ _)
    · split
      · exact scenes.place same offers _ _
      · exact same.rejected (coupling.errors_refl _ _)

/-- Coupled programs reach related values and leave coupled desks. -/
theorem Programs.run {α : Type} {related : Pairing → α → α → Prop}
    {program otherProgram : Program α}
    (coupled : coupling.Programs related sameRows pairing program otherProgram)
    (scenes : coupling.Scenes own sameRows scene otherScene)
    (same : coupling.Desks pairing scene.limits own desk otherDesk) :
    ∃ later, pairing.Within later ∧
      related later (program.run scene desk).value
        (otherProgram.run otherScene otherDesk).value ∧
      coupling.Desks later scene.limits own (program.run scene desk).desk
        (otherProgram.run otherScene otherDesk).desk := by
  -- Each step pairs at most one more number, and the programs go on coupled under those pairs.
  induction coupled generalizing desk otherDesk with
  | done value => exact ⟨_, .refl _, value, same⟩
  | tell note otherNote onward ih => exact ih same
  | reserve onward ih =>
    obtain ⟨later, within, paired, desks⟩ := same.reserve
    obtain ⟨last, beyond, value, final⟩ := ih later within _ _ paired desks
    exact ⟨last, within.trans beyond, value, final⟩
  | create start stop offers onward ih =>
    obtain ⟨later, within, answer, desks⟩ := scenes.createOnLine same offers start stop
    obtain ⟨last, beyond, value, final⟩ := ih later within _ _ answer desks
    exact ⟨last, within.trans beyond, value, final⟩
  | createAt rows start stop offers onward ih =>
    obtain ⟨later, within, answer, desks⟩ := scenes.createAt rows same offers start stop
    obtain ⟨last, beyond, value, final⟩ := ih later within _ _ answer desks
    exact ⟨last, within.trans beyond, value, final⟩

/-- A machine respects a relation of states when its hooks are coupled in related states. -/
structure Respects (coupling : Coupling) {σ : Type} (machine : Machine σ)
    (states : Pairing → σ → σ → Prop) : Prop where
  /-- States stay related when more numbers are paired. -/
  mono : ∀ {pairing later : Pairing} {state other : σ}, pairing.Within later →
    states pairing state other → states later state other
  /-- Starting leads to the same decision. -/
  start : ∀ {pairing : Pairing} {state other : σ} {invocation otherInvocation : Invocation},
    coupling.starts invocation otherInvocation → states pairing state other →
      SameReply states pairing (machine.onStart invocation state).2
        (machine.onStart otherInvocation other).2
  /-- Taking a line is coupled. -/
  line : ∀ {pairing : Pairing} {state other : σ} {view otherView : View} (line : LogicalLine),
    (coupling.inStep → view.rowCount = otherView.rowCount) → states pairing state other →
      coupling.Programs (SameReply states) coupling.inStep pairing
        (machine.onLine view line state) (machine.onLine otherView line other)
  /-- Finishing is coupled. -/
  finish : ∀ {pairing : Pairing} {state other : σ} {view otherView : View} (totalRows : Nat),
    view.rowCount = otherView.rowCount → states pairing state other →
      coupling.Programs (SameReply states) True pairing
        (machine.onFinish view totalRows state) (machine.onFinish otherView totalRows other)

/-- Two matchers are coupled when one machine respects how their states relate. -/
inductive Matchers (coupling : Coupling) (pairing : Pairing) : Matcher → Matcher → Prop
  /-- The machine is shared. -/
  | intro {σ : Type} {machine : Machine σ} {states : Pairing → σ → σ → Prop}
    (respects : coupling.Respects machine states) {state other : σ}
    (related : states pairing state other) :
    Matchers coupling pairing { State := σ, machine, state } { State := σ, machine, state := other }

variable {matcher otherMatcher : Matcher}

/-- Matchers stay coupled when more numbers are paired. -/
theorem Matchers.mono (within : pairing.Within later)
    (same : coupling.Matchers pairing matcher otherMatcher) :
    coupling.Matchers later matcher otherMatcher := by
  -- The machine stays, and its states stay related.
  cases same with
  | intro respects related => exact .intro respects (respects.mono within related)

/-- Starting coupled matchers leaves them coupled, and their decisions agree. -/
theorem Matchers.start (same : coupling.Matchers pairing matcher otherMatcher)
    {invocation otherInvocation : Invocation}
    (starts : coupling.starts invocation otherInvocation) :
    coupling.Matchers pairing (matcher.start invocation).matcher
        (otherMatcher.start otherInvocation).matcher ∧
      SameDecision (matcher.start invocation).answer
        (otherMatcher.start otherInvocation).answer := by
  -- The machine is shared, and it respects how the states relate.
  cases same with
  | intro respects related =>
    obtain ⟨states, decisions⟩ := respects.start starts related
    exact ⟨.intro respects states, decisions⟩

/-- What two hooks leave is coupled when matchers and tables are and the decisions agree. -/
structure HandledAlike (coupling : Coupling) (pairing : Pairing) (limits : Limits)
    (own : Region → Bool) {α : Type} (handled other : Handled α × RegionTable) : Prop where
  /-- The matchers are coupled. -/
  matcher : coupling.Matchers pairing handled.1.matcher other.1.matcher
  /-- The decisions agree. -/
  answer : SameDecision handled.1.answer other.1.answer
  /-- The tables are coupled. -/
  table : coupling.Tables pairing limits own handled.2 other.2

/-- Running the programs of two hooks leaves what is coupled. -/
theorem Programs.handle {σ α : Type} {machine : Machine σ} {states : Pairing → σ → σ → Prop}
    (respects : coupling.Respects machine states) {state otherState : σ}
    {program otherProgram : Program (Reply σ α)}
    (coupled : coupling.Programs (SameReply states) sameRows pairing program otherProgram)
    (scenes : coupling.Scenes own sameRows scene otherScene)
    (tables : coupling.Tables pairing scene.limits own table other) :
    ∃ later, pairing.Within later ∧ coupling.HandledAlike later scene.limits own
      (Matcher.handle { State := σ, machine, state } scene table program)
      (Matcher.handle { State := σ, machine, state := otherState } otherScene other
        otherProgram) := by
  -- A hook begins at a desk without a reservation, and what is left reserved is dropped behind it.
  have fresh : coupling.Desks pairing scene.limits own { table } { table := other } :=
    ⟨tables, .none⟩
  obtain ⟨later, within, reply, desks⟩ := coupled.run scenes fresh
  exact ⟨later, within, .intro respects reply.state, reply.answer, desks.table⟩

/-- Handing a line to coupled matchers leaves what is coupled. -/
theorem Matchers.takeLine (same : coupling.Matchers pairing matcher otherMatcher)
    (scenes : coupling.Scenes own coupling.inStep scene otherScene)
    (tables : coupling.Tables pairing scene.limits own table other) (line : LogicalLine) :
    ∃ later, pairing.Within later ∧ coupling.HandledAlike later scene.limits own
      (matcher.takeLine scene table line) (otherMatcher.takeLine otherScene other line) := by
  -- In step, the views show the same number of rows.
  cases same with
  | intro respects related =>
    have views : coupling.inStep → scene.view.rowCount = otherScene.view.rowCount :=
      fun step => congrArg Array.size (scenes.rows step)
    exact (respects.line line views related).handle respects scenes tables

/-- Finishing coupled matchers over the same rows leaves what is coupled. -/
theorem Matchers.finish (same : coupling.Matchers pairing matcher otherMatcher)
    (scenes : coupling.Scenes own True scene otherScene)
    (tables : coupling.Tables pairing scene.limits own table other) (totalRows : Nat) :
    ∃ later, pairing.Within later ∧ coupling.HandledAlike later scene.limits own
      (matcher.finish scene table totalRows) (otherMatcher.finish otherScene other totalRows) := by
  -- The rows are the same, so the views show the same number of them.
  cases same with
  | intro respects related =>
    have views : scene.view.rowCount = otherScene.view.rowCount :=
      congrArg Array.size (scenes.rows trivial)
    exact (respects.finish totalRows views related).handle respects scenes tables

/-- An invocation among others and by itself may differ in numbers alone. -/
def numbers (host : InvocationId) : Coupling where
  host := host
  offers := Pairing.SameMetadata
  errors := Pairing.SameError
  starts := Eq
  inStep := True
  offers_mono within same := same.mono within
  offers_validate {pairing one other} same := by
    have checked := same.validate
    generalize one.validate = answer, other.validate = otherAnswer at checked ⊢
    cases checked with
    | ok known => exact .ok known
    | error reason => exact .error (.invalidAction reason)
  errors_refl _ error := .refl error
  starts_eq _ same := same

variable {host : InvocationId} {α : Type}

/-- Programs that are coupled up to numbers are alike. -/
theorem Programs.alike {related : Pairing → α → α → Prop} {pairing : Pairing}
    {program other : Program α}
    (coupled : (numbers host).Programs related True pairing program other) :
    program.Alike related pairing other := by
  -- Each way of being coupled is a way of being alike, once rows are left out of account.
  induction coupled with
  | done same => exact .done same
  | tell note otherNote _ ih => exact .tell note otherNote ih
  | reserve _ ih => exact .reserve ih
  | create start stop same _ ih => exact .create start stop same ih
  | createAt _ start stop same _ ih => exact .createAt start stop same ih

end Coupling

end Annotator

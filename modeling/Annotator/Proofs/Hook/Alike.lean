import Annotator.Proofs.Region.Growth
import Annotator.Proofs.Region.Pairing
import Annotator.Registry

/-! A matcher that ignores numbers works alike in two courses that number regions differently. -/

namespace Annotator

/-- Two programs are alike when they do the same up to paired numbers, whatever comes of it. -/
inductive Program.Alike {α : Type} (related : Pairing → α → α → Prop) :
    Pairing → Program α → Program α → Prop
  /-- Both reach related values. -/
  | done {pairing : Pairing} {value other : α} (same : related pairing value other) :
    Alike related pairing (.done value) (.done other)
  /-- Both leave a note. -/
  | tell {pairing : Pairing} (note otherNote : Note) {next other : Program α}
    (onward : Alike related pairing next other) :
    Alike related pairing (.tell note next) (.tell otherNote other)
  /-- Both reserve a number, and the numbers are paired from then on. -/
  | reserve {pairing : Pairing} {next other : RegionId → Program α}
    (onward : ∀ later : Pairing, pairing.Within later → ∀ first second, later.Paired first second →
      Alike related later (next first) (other second)) :
    Alike related pairing (.reserve next) (.reserve other)
  /-- Both create a region over the same bytes, and the answers agree. -/
  | create {pairing : Pairing} (start stop : Nat) {metadata otherMetadata : Metadata}
    {next other : Except RegionError RegionId → Program α}
    (same : pairing.SameMetadata metadata otherMetadata)
    (onward : ∀ later : Pairing, pairing.Within later → ∀ answer otherAnswer,
      Agree later.SameError later.Paired answer otherAnswer →
        Alike related later (next answer) (other otherAnswer)) :
    Alike related pairing (.create start stop metadata next)
      (.create start stop otherMetadata other)
  /-- Both create a region between the same positions, and the answers agree. -/
  | createAt {pairing : Pairing} (start stop : Position) {metadata otherMetadata : Metadata}
    {next other : Except RegionError RegionId → Program α}
    (same : pairing.SameMetadata metadata otherMetadata)
    (onward : ∀ later : Pairing, pairing.Within later → ∀ answer otherAnswer,
      Agree later.SameError later.Paired answer otherAnswer →
        Alike related later (next answer) (other otherAnswer)) :
    Alike related pairing (.createAt start stop metadata next)
      (.createAt start stop otherMetadata other)

/-- Two decisions agree when they are the same or both hooks failed. -/
def SameDecision {α : Type} : Except Fault α → Except Fault α → Prop :=
  -- Faults may mention numbers.
  Agree (fun _ _ => True) (· = ·)

/-- Two replies agree when their states are related and their decisions agree. -/
structure SameReply {σ α : Type} (states : Pairing → σ → σ → Prop) (pairing : Pairing)
    (reply other : Reply σ α) : Prop where
  /-- The states are related. -/
  state : states pairing reply.state other.state
  /-- The decisions agree. -/
  answer : SameDecision reply.answer other.answer

/-- A machine respects a relation of states when its hooks work alike in related states. -/
structure Machine.Respects {σ : Type} (machine : Machine σ) (states : Pairing → σ → σ → Prop) :
    Prop where
  /-- States stay related when more numbers are paired. -/
  mono : ∀ {pairing later : Pairing} {state other : σ}, pairing.Within later →
    states pairing state other → states later state other
  /-- Starting works alike. -/
  start : ∀ {pairing : Pairing} {state other : σ} (invocation : Invocation),
    states pairing state other →
      SameReply states pairing (machine.onStart invocation state).2
        (machine.onStart invocation other).2
  /-- Taking a line works alike. -/
  line : ∀ {pairing : Pairing} {state other : σ} (view : View) (line : LogicalLine),
    states pairing state other →
      (machine.onLine view line state).Alike (SameReply states) pairing
        (machine.onLine view line other)
  /-- Finishing works alike. -/
  finish : ∀ {pairing : Pairing} {state other : σ} (view : View) (totalRows : Nat),
    states pairing state other →
      (machine.onFinish view totalRows state).Alike (SameReply states) pairing
        (machine.onFinish view totalRows other)

/-- The decisions of a factory's matchers do not depend on the numbers of regions. -/
def Factory.IgnoresNumbers (factory : Factory) : Prop :=
  -- Before any number is paired, the state of a new matcher is related to itself.
  ∀ site notes matcher, factory.create site = (notes, .ok matcher) →
    ∃ states : Pairing → matcher.State → matcher.State → Prop,
      matcher.machine.Respects states ∧ states {} matcher.state matcher.state

/-- The regions that bear the name of a matcher, in the order of their creation. -/
def RegionTable.made (table : RegionTable) (matcher : String) : List Region :=
  -- Names are compared whole.
  table.regions.filter (·.matcher == matcher)

namespace Pairing

/-- Two tables have the same regions of a matcher, whose numbers are paired. -/
structure SameTable (pairing : Pairing) (limits : Limits) (matcher : String)
    (table other : RegionTable) : Prop where
  /-- The regions of the matcher are the same, one by one. -/
  regions : (table.made matcher).Forall₂ (pairing.SameRegion limits) (other.made matcher)
  /-- Only issued numbers are paired. -/
  issued : ∀ first second, pairing.Paired first second →
    first.number < table.nextId ∧ second.number < other.nextId

/-- Two desks have the same regions of a matcher and paired reservations. -/
structure SameDesk (pairing : Pairing) (limits : Limits) (matcher : String)
    (desk other : Desk) : Prop where
  /-- The tables are the same. -/
  table : pairing.SameTable limits matcher desk.table other.table
  /-- The reserved numbers are paired. -/
  reserved : Option.Rel pairing.Paired desk.reserved other.reserved

variable {pairing : Pairing} {limits : Limits} {matcher : String} {table other : RegionTable}

/-- Tables stay the same while regions of other matchers are added on either side. -/
theorem SameTable.grows (same : pairing.SameTable limits matcher table other)
    {grown otherGrown : RegionTable}
    (grows : table.Grows (fun region => region.matcher ≠ matcher) grown)
    (otherGrows : other.Grows (fun region => region.matcher ≠ matcher) otherGrown) :
    pairing.SameTable limits matcher grown otherGrown := by
  -- Regions of other matchers are left out when the tables are compared.
  have kept {old new : RegionTable}
      (apart : old.Grows (fun region => region.matcher ≠ matcher) new) :
      new.made matcher = old.made matcher := by
    obtain ⟨_, created, split, foreign⟩ := apart
    have none : created.filter (·.matcher == matcher) = [] := by
      rw [List.filter_eq_nil_iff]
      intro region member
      simpa using (foreign region member).1
    rw [RegionTable.made, split, List.filter_append, none, List.append_nil, RegionTable.made]
  refine ⟨?_, fun first second paired => ?_⟩
  · rw [kept grows, kept otherGrows]
    exact same.regions
  · -- Numbers that were issued stay issued.
    obtain ⟨low, high⟩ := same.issued first second paired
    exact ⟨Nat.lt_of_lt_of_le low grows.numbers, Nat.lt_of_lt_of_le high otherGrows.numbers⟩

/-- Numbers allocated on both sides are paired from then on. -/
theorem SameTable.allocate (same : pairing.SameTable limits matcher table other) :
    ∃ later, pairing.Within later ∧ later.Paired table.allocate.1 other.allocate.1 ∧
      later.SameTable limits matcher table.allocate.2 other.allocate.2 := by
  -- Both numbers are larger than all that were paired before.
  let later := pairing.extend table.allocate.1 other.allocate.1 same.issued
  have within : pairing.Within later := List.subset_append_left _ _
  refine ⟨later, within, paired_extend.mpr (.inr ⟨rfl, rfl⟩), ?_, fun first second paired => ?_⟩
  · -- Regions that were the same under fewer pairs are so under more.
    exact same.regions.imp fun _ _ region => region.mono within
  · rcases paired_extend.mp paired with old | ⟨rfl, rfl⟩
    · obtain ⟨low, high⟩ := same.issued first second old
      exact ⟨Nat.lt_succ_of_lt low, Nat.lt_succ_of_lt high⟩
    · exact ⟨Nat.lt_succ_self _, Nat.lt_succ_self _⟩

/-- Regions of a matcher are removed from those of the matcher. -/
theorem made_filter (table : RegionTable) (keep : Region → Bool) :
    RegionTable.made { table with regions := table.regions.filter keep } matcher =
      (table.made matcher).filter keep := by
  -- The two filters may be applied in either order.
  rw [RegionTable.made, RegionTable.made, List.filter_filter, List.filter_filter]
  congr 1
  funext region
  exact Bool.and_comm _ _

/-- Tables stay the same when regions at the same places are removed from both. -/
theorem SameTable.filter (same : pairing.SameTable limits matcher table other)
    {keep otherKeep : Region → Bool}
    (together : (table.made matcher).map keep = (other.made matcher).map otherKeep) :
    pairing.SameTable limits matcher
      { table with regions := table.regions.filter keep }
      { other with regions := other.regions.filter otherKeep } := by
  -- Filtering commutes with selecting what one matcher has made.
  refine ⟨?_, same.issued⟩
  rw [made_filter, made_filter]
  have regions := same.regions
  -- What the filters say on both sides agrees place by place.
  generalize table.made matcher = made, other.made matcher = otherMade at together regions ⊢
  induction regions with
  | nil => exact .nil
  | @cons region otherRegion rest others equal _ ih =>
    -- The first regions are both kept or both removed.
    rw [List.map_cons, List.map_cons, List.cons.injEq] at together
    rw [List.filter_cons, List.filter_cons, together.1]
    split
    · exact .cons equal (ih together.2)
    · exact ih together.2

variable {desk otherDesk : Desk}

/-- Numbers reserved on both sides are paired. -/
theorem SameDesk.reserve (same : pairing.SameDesk limits matcher desk otherDesk) :
    ∃ later, pairing.Within later ∧ later.Paired desk.reserve.1 otherDesk.reserve.1 ∧
      later.SameDesk limits matcher desk.reserve.2 otherDesk.reserve.2 := by
  -- A number that is reserved already is handed out again on both sides, as the reservations agree.
  obtain ⟨table, reserved⟩ := same
  obtain ⟨held, standing⟩ := desk
  obtain ⟨otherHeld, otherStanding⟩ := otherDesk
  cases reserved with
  | some paired => exact ⟨pairing, .refl pairing, paired, table, .some paired⟩
  | none =>
    obtain ⟨later, within, paired, tables⟩ := table.allocate
    exact ⟨later, within, paired, tables, .some paired⟩

/-- Numbers claimed on both sides are paired, and no reservation is left. -/
theorem SameDesk.claim (same : pairing.SameDesk limits matcher desk otherDesk) :
    ∃ later, pairing.Within later ∧ later.Paired desk.claim.1 otherDesk.claim.1 ∧
      later.SameTable limits matcher desk.claim.2.table otherDesk.claim.2.table := by
  -- The reserved number is claimed if there is one, on both sides or on neither.
  obtain ⟨table, reserved⟩ := same
  obtain ⟨held, standing⟩ := desk
  obtain ⟨otherHeld, otherStanding⟩ := otherDesk
  cases reserved with
  | some paired => exact ⟨pairing, .refl pairing, paired, table⟩
  | none => exact table.allocate

/-- Two creations are settled alike when their answers agree and they leave the same desks. -/
structure SameSettled (pairing : Pairing) (limits : Limits) (matcher : String)
    (settled other : Except RegionError RegionId × Desk) : Prop where
  /-- The answers agree. -/
  answer : Agree pairing.SameError pairing.Paired settled.1 other.1
  /-- The desks are the same. -/
  desk : pairing.SameDesk limits matcher settled.2 other.2

/-- Creations that are rejected for the same reason are settled alike. -/
theorem SameDesk.rejected (same : pairing.SameDesk limits matcher desk otherDesk)
    {error other : RegionError} (reason : pairing.SameError error other) :
    ∃ later, pairing.Within later ∧ later.SameSettled limits matcher
      (desk.settle (.error error)) (otherDesk.settle (.error other)) :=
  -- A rejection leaves the desks as they are.
  ⟨pairing, .refl pairing, .error reason, same⟩

end Pairing

namespace Scene

variable {pairing : Pairing} {scene : Scene} {desk otherDesk : Desk}
  {metadata otherMetadata : Metadata}

/-- Placing the same metadata is settled alike. -/
theorem place_same (same : pairing.SameDesk scene.limits scene.matcher desk otherDesk)
    (offers : pairing.SameMetadata metadata otherMetadata) (start stop : Position) :
    ∃ later, pairing.Within later ∧ later.SameSettled scene.limits scene.matcher
      (desk.settle (scene.place desk start stop metadata))
      (otherDesk.settle (scene.place otherDesk start stop otherMetadata)) := by
  -- Metadata that are the same up to numbers are valid alike, so both are refused or both are
  -- placed.
  have checked := offers.validate
  unfold place
  generalize metadata.validate = answer, otherMetadata.validate = otherAnswer at checked ⊢
  cases checked with
  | error reason => exact same.rejected (.invalidAction reason)
  | ok _ =>
    obtain ⟨later, within, paired, tables⟩ := same.claim
    refine ⟨later, within, .ok paired, ⟨?_, tables.issued⟩, ?_⟩
    · -- The new regions stand behind the old ones on both sides.
      have region (id : RegionId) (held : RegionTable) (offered : Metadata) :
          (held.insert (scene.drawn id start stop offered)).made scene.matcher =
            held.made scene.matcher ++ [scene.drawn id start stop offered] := by
        simp [RegionTable.made, RegionTable.insert, drawn]
      show List.Forall₂ _ ((desk.claim.2.table.insert (scene.drawn _ start stop metadata)).made _)
        ((otherDesk.claim.2.table.insert (scene.drawn _ start stop otherMetadata)).made _)
      rw [region, region]
      refine List.rel_append tables.regions (.cons ?_ .nil)
      exact ⟨paired, rfl, rfl, rfl, rfl, metadata, otherMetadata, offers.mono within, rfl, rfl⟩
    · show Option.Rel _ desk.claim.2.reserved otherDesk.claim.2.reserved
      rw [desk.claim_reserved, otherDesk.claim_reserved]
      exact .none

/-- Creating on the current line is settled alike. -/
theorem createOnLine_same (same : pairing.SameDesk scene.limits scene.matcher desk otherDesk)
    (offers : pairing.SameMetadata metadata otherMetadata) (start stop : Nat) :
    ∃ later, pairing.Within later ∧ later.SameSettled scene.limits scene.matcher
      (desk.settle (scene.createOnLine desk start stop metadata))
      (otherDesk.settle (scene.createOnLine otherDesk start stop otherMetadata)) := by
  -- The line and the span are the same on both sides, so the checks in front go the same way.
  unfold createOnLine
  split
  · exact same.rejected (.refl _)
  · split
    · exact place_same same offers _ _
    · exact same.rejected (.refl _)

/-- Creating between positions is settled alike. -/
theorem createAt_same (same : pairing.SameDesk scene.limits scene.matcher desk otherDesk)
    (offers : pairing.SameMetadata metadata otherMetadata) (start stop : Position) :
    ∃ later, pairing.Within later ∧ later.SameSettled scene.limits scene.matcher
      (desk.settle (scene.createAt desk start stop metadata))
      (otherDesk.settle (scene.createAt otherDesk start stop otherMetadata)) := by
  -- The rows are the same on both sides, so the checks in front go the same way.
  unfold createAt
  split
  · exact same.rejected (.refl _)
  · split
    · exact same.rejected (.refl _)
    · split
      · exact place_same same offers _ _
      · exact same.rejected (.refl _)

end Scene

namespace Program

variable {α : Type} {related : Pairing → α → α → Prop} {pairing : Pairing}
  {program other : Program α}

/-- Programs that are alike reach related values and leave the same desks. -/
theorem Alike.run {scene : Scene} (alike : program.Alike related pairing other)
    {desk otherDesk : Desk}
    (same : pairing.SameDesk scene.limits scene.matcher desk otherDesk) :
    ∃ later, pairing.Within later ∧
      related later (program.run scene desk).value (other.run scene otherDesk).value ∧
      later.SameDesk scene.limits scene.matcher (program.run scene desk).desk
        (other.run scene otherDesk).desk := by
  -- Each step pairs at most one more number, and the programs go on alike under those pairs.
  induction alike generalizing desk otherDesk with
  | done value => exact ⟨_, .refl _, value, same⟩
  | tell note otherNote onward ih => exact ih same
  | reserve onward ih =>
    obtain ⟨later, within, paired, desks⟩ := same.reserve
    obtain ⟨last, beyond, value, final⟩ := ih later within _ _ paired desks
    exact ⟨last, within.trans beyond, value, final⟩
  | create start stop offers onward ih =>
    obtain ⟨later, within, answer, desks⟩ := Scene.createOnLine_same same offers start stop
    obtain ⟨last, beyond, value, final⟩ := ih later within _ _ answer desks
    exact ⟨last, within.trans beyond, value, final⟩
  | createAt start stop offers onward ih =>
    obtain ⟨later, within, answer, desks⟩ := Scene.createAt_same same offers start stop
    obtain ⟨last, beyond, value, final⟩ := ih later within _ _ answer desks
    exact ⟨last, within.trans beyond, value, final⟩

/-- Programs that are alike stay so when they are followed by programs that are. -/
theorem Alike.bind {β : Type} {wanted : Pairing → β → β → Prop} {follow otherFollow : α → Program β}
    (alike : program.Alike related pairing other)
    (onward : ∀ later : Pairing, pairing.Within later → ∀ value otherValue,
      related later value otherValue → (follow value).Alike wanted later (otherFollow otherValue)) :
    (program.bind follow).Alike wanted pairing (other.bind otherFollow) := by
  -- Induction on the first programs, whose pairs are kept by what follows them.
  induction alike with
  | done value => exact onward _ (.refl _) _ _ value
  | tell note otherNote _ ih => exact .tell note otherNote (ih onward)
  | reserve _ ih =>
    refine .reserve fun later within first second paired => ?_
    exact ih later within first second paired fun last beyond => onward last (within.trans beyond)
  | create start stop offers _ ih =>
    refine .create start stop offers fun later within answer otherAnswer agree => ?_
    exact ih later within answer otherAnswer agree fun last beyond =>
      onward last (within.trans beyond)
  | createAt start stop offers _ ih =>
    refine .createAt start stop offers fun later within answer otherAnswer agree => ?_
    exact ih later within answer otherAnswer agree fun last beyond =>
      onward last (within.trans beyond)

end Program

/-- Two matchers are the same up to numbers when one machine respects how their states relate. -/
inductive Pairing.SameMatcher (pairing : Pairing) : Matcher → Matcher → Prop
  /-- The machine is shared. -/
  | intro {σ : Type} {machine : Machine σ} {states : Pairing → σ → σ → Prop}
    (respects : machine.Respects states) {state other : σ} (related : states pairing state other) :
    SameMatcher pairing { State := σ, machine, state } { State := σ, machine, state := other }

namespace Matcher

variable {pairing : Pairing} {matcher other : Matcher}

/-- Matchers stay the same when more numbers are paired. -/
theorem same_mono {later : Pairing} (within : pairing.Within later)
    (same : pairing.SameMatcher matcher other) : later.SameMatcher matcher other := by
  -- The machine stays, and its states stay related.
  cases same with
  | intro respects related => exact .intro respects (respects.mono within related)

/-- Starting matchers that are the same leaves them so, and their decisions agree. -/
theorem start_same (same : pairing.SameMatcher matcher other) (invocation : Invocation) :
    pairing.SameMatcher (matcher.start invocation).matcher (other.start invocation).matcher ∧
      SameDecision (matcher.start invocation).answer (other.start invocation).answer := by
  -- The machine is shared, and it respects how the states relate.
  cases same with
  | intro respects related =>
    obtain ⟨states, decisions⟩ := respects.start invocation related
    exact ⟨.intro respects states, decisions⟩

/-- What two hooks leave is the same when matchers, decisions and tables are. -/
structure SameHandled (pairing : Pairing) (scene : Scene) {α : Type}
    (handled other : Handled α × RegionTable) : Prop where
  /-- The matchers are the same. -/
  matcher : pairing.SameMatcher handled.1.matcher other.1.matcher
  /-- The decisions agree. -/
  answer : SameDecision handled.1.answer other.1.answer
  /-- The tables are the same. -/
  table : pairing.SameTable scene.limits scene.matcher handled.2 other.2

/-- Handing a line to matchers that are the same leaves the same. -/
theorem takeLine_same (same : pairing.SameMatcher matcher other) (scene : Scene)
    {table otherTable : RegionTable}
    (tables : pairing.SameTable scene.limits scene.matcher table otherTable) (line : LogicalLine) :
    ∃ later, pairing.Within later ∧ SameHandled later scene (matcher.takeLine scene table line)
      (other.takeLine scene otherTable line) := by
  -- Each hook begins at a desk without a reservation.
  cases same with
  | intro respects related =>
    have fresh : pairing.SameDesk scene.limits scene.matcher { table } { table := otherTable } :=
      ⟨tables, .none⟩
    obtain ⟨later, within, reply, desks⟩ := (respects.line scene.view line related).run fresh
    exact ⟨later, within, .intro respects reply.state, reply.answer, desks.table⟩

/-- Finishing matchers that are the same leaves the same. -/
theorem finish_same (same : pairing.SameMatcher matcher other) (scene : Scene)
    {table otherTable : RegionTable}
    (tables : pairing.SameTable scene.limits scene.matcher table otherTable) (totalRows : Nat) :
    ∃ later, pairing.Within later ∧ SameHandled later scene (matcher.finish scene table totalRows)
      (other.finish scene otherTable totalRows) := by
  -- Each hook begins at a desk without a reservation.
  cases same with
  | intro respects related =>
    have fresh : pairing.SameDesk scene.limits scene.matcher { table } { table := otherTable } :=
      ⟨tables, .none⟩
    obtain ⟨later, within, reply, desks⟩ := (respects.finish scene.view totalRows related).run fresh
    exact ⟨later, within, .intro respects reply.state, reply.answer, desks.table⟩

end Matcher

end Annotator

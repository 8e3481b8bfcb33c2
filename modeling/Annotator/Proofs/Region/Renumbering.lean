import Annotator.Build.Make
import Annotator.Proofs.Region.Pairing

/-!
Regions may be renumbered. Their numbers stand in the regions themselves and in the two actions of
the build matcher that mention a region.
-/

namespace Annotator

/-- Actions of these names mention a region in their first argument. -/
def Action.mentionsRegion (name : String) : Bool :=
  -- The report of a region is copied, and a region is scrolled to.
  name == "CopySemantic" || name == "ScrollSemanticRelative"

/-- Two actions are the same up to a linked number that they mention. -/
inductive Action.Renumbered (link : RegionId → RegionId → Prop) : Action → Action → Prop
  /-- Both mention a region, and the numbers are linked. -/
  | mention {name : String} (mentions : Action.mentionsRegion name = true) {one other : RegionId}
    (linked : link one other) (rest : List Argument) :
    Renumbered link { name, args := .value (toString one.number) :: rest }
      { name, args := .value (toString other.number) :: rest }
  /-- No region is mentioned. -/
  | silent {action : Action} (silent : Action.mentionsRegion action.name = false) :
    Renumbered link action action

/-- Two menu entries are the same up to a linked number that they mention. -/
inductive MenuEntry.Renumbered (link : RegionId → RegionId → Prop) : MenuEntry → MenuEntry → Prop
  /-- Both run an action. -/
  | action {chosen other : Action} (renumbered : chosen.Renumbered link other) (label : String)
    (icon statusTip : Option String) :
    Renumbered link (.action chosen label icon statusTip) (.action other label icon statusTip)
  /-- No action is run. -/
  | plain {entry : MenuEntry} (plain : entry.action? = none) : Renumbered link entry entry

/-- Two pieces of metadata are the same up to linked numbers that their actions mention. -/
structure Metadata.Renumbered (link : RegionId → RegionId → Prop) (one other : Metadata) :
    Prop where
  /-- The icons are the same. -/
  icon : one.icon = other.icon
  /-- The tooltips are the same. -/
  tooltip : one.tooltip = other.tooltip
  /-- The primary actions are the same up to numbers. -/
  primaryAction : Option.Rel (Action.Renumbered link) one.primaryAction other.primaryAction
  /-- The drag payloads are the same. -/
  drag : one.drag = other.drag
  /-- The menus are the same up to numbers. -/
  menu : one.menu.Forall₂ (MenuEntry.Renumbered link) other.menu

/-- Metadata of one matcher is the same, up to linked numbers if it is the build matcher. -/
def Metadata.RenumberedFor (matcher : String) (link : RegionId → RegionId → Prop)
    (one other : Metadata) : Prop :=
  -- No other built-in matcher mentions regions.
  if matcher = Make.matcherName then one.Renumbered link other else one = other

/-- Metadata of any other matcher is the same as itself. -/
theorem Metadata.RenumberedFor.plain {matcher : String} (plain : matcher ≠ Make.matcherName)
    (link : RegionId → RegionId → Prop) (metadata : Metadata) :
    metadata.RenumberedFor matcher link metadata :=
  -- Other matchers than builds mention no numbers.
  (if_neg plain).mpr rfl

/-- Metadata of the build matcher is the same up to the numbers that it mentions. -/
theorem Metadata.Renumbered.build {link : RegionId → RegionId → Prop} {one other : Metadata}
    (same : one.Renumbered link other) : one.RenumberedFor Make.matcherName link other :=
  -- Builds mention numbers.
  (if_pos rfl).mpr same

/-- Two regions are the same up to linked numbers. -/
structure Region.Renumbered (link : RegionId → RegionId → Prop) (region other : Region) :
    Prop where
  /-- Their own numbers are linked. -/
  id : link region.id other.id
  /-- The invocations are the same. -/
  invocation : region.invocation = other.invocation
  /-- The matchers have the same name. -/
  matcher : region.matcher = other.matcher
  /-- The regions begin at the same place. -/
  start : region.start = other.start
  /-- The regions end at the same place. -/
  stop : region.stop = other.stop
  /-- What they show is the same up to numbers that the build matcher mentions. -/
  metadata : region.metadata.RenumberedFor region.matcher link other.metadata

section Mono

variable {link later : RegionId → RegionId → Prop}

/-- More links make no fewer actions the same. -/
theorem Action.Renumbered.mono (weaker : ∀ one other, link one other → later one other)
    {one other : Action} (same : one.Renumbered link other) : one.Renumbered later other := by
  -- The link is only used for the number that is mentioned.
  cases same with
  | mention mentions linked rest => exact .mention mentions (weaker _ _ linked) rest
  | silent quiet => exact .silent quiet

/-- More links make no fewer metadata the same. -/
theorem Metadata.Renumbered.mono (weaker : ∀ one other, link one other → later one other)
    {one other : Metadata} (same : one.Renumbered link other) : one.Renumbered later other := by
  -- The primary action and the entries may mention numbers, and the rest is equal.
  refine { same with
    primaryAction := related_mono (fun _ _ action => action.mono weaker) same.primaryAction
    menu := same.menu.imp fun entry otherEntry related => ?_ }
  cases related with
  | action renumbered label icon statusTip =>
    exact .action (renumbered.mono weaker) label icon statusTip
  | plain quiet => exact .plain quiet

/-- Links need to be kept for the number of the region, and for all if the build matcher made it. -/
theorem Region.Renumbered.mono {region other : Region}
    (weaker : ∀ first second, link first second →
      (region.matcher = Make.matcherName ∨ first = region.id) → later first second)
    (same : region.Renumbered link other) : region.Renumbered later other := by
  -- Links of the region itself always count, and others only for builds.
  refine { same with id := weaker _ _ same.id (.inr rfl), metadata := ?_ }
  have shown := same.metadata
  unfold Metadata.RenumberedFor at shown ⊢
  split
  · rename_i build
    rw [if_pos build] at shown
    exact shown.mono fun first second linked => weaker first second linked (.inl build)
  · rename_i other
    rwa [if_neg other] at shown

end Mono

/-- Cutting to limits keeps metadata the same up to numbers. -/
theorem Metadata.RenumberedFor.limited {matcher : String} {link : RegionId → RegionId → Prop}
    {one other : Metadata} (same : one.RenumberedFor matcher link other) (limits : Limits) :
    (one.limited limits).RenumberedFor matcher link (other.limited limits) := by
  -- Limits cut both tooltips and both menus at the same place.
  unfold RenumberedFor at same ⊢
  split
  · rename_i build
    rw [if_pos build] at same
    exact ⟨same.icon, by rw [Metadata.limited, same.tooltip]; rfl, same.primaryAction, same.drag,
      List.forall₂_take _ same.menu⟩
  · rename_i other
    rw [if_neg other] at same
    rw [same]

section Same

variable {pairing : Pairing}

/-- Actions that are the same up to paired numbers to mention are so as texts. -/
theorem Action.Renumbered.same {one other : Action} (same : one.Renumbered pairing.Paired other) :
    pairing.SameAction one other := by
  -- The number that is mentioned is a text of digits, which are those of a pair.
  cases same with
  | mention mentions paired rest =>
    refine ⟨.refl pairing _, .cons (.value (.number paired)) ?_⟩
    exact List.forall₂_same.mpr fun argument _ => .refl pairing argument
  | silent quiet => exact .refl pairing one

/-- Metadata that is the same up to paired numbers to mention is so as texts. -/
theorem Metadata.Renumbered.same {one other : Metadata}
    (same : one.Renumbered pairing.Paired other) : pairing.SameMetadata one other := by
  -- Part by part: equal parts are the same under any pairing.
  obtain ⟨icon, tooltip, primaryAction, drag, menu⟩ := same
  have given := Pairing.SameMetadata.refl pairing one
  refine ⟨icon ▸ given.icon, tooltip ▸ given.tooltip,
    related_mono (fun _ _ action => action.same) primaryAction, drag ▸ given.drag,
    menu.imp fun entry otherEntry related => ?_⟩
  cases related with
  | action renumbered label icon statusTip =>
    exact .action renumbered.same (.refl pairing label) (related_refl (.refl pairing) icon)
      (related_refl (.refl pairing) statusTip)
  | plain quiet => exact .refl pairing entry

end Same

section Meet

/-- A number is known by how it is written. -/
theorem eq_of_repr_eq {one other : Nat} (same : one.repr = other.repr) : one = other := by
  -- Numbers are read back from their digits.
  have digits := congrArg String.toList same
  rw [Nat.toList_repr, Nat.toList_repr] at digits
  have read (number : Nat) : Nat.ofDigitChars 10 (Nat.toDigits 10 number) 0 = number :=
    Nat.ofDigitChars_toDigits (by decide) (by decide)
  rw [← read one, digits, read other]

/-- Two numbers meet when they are linked to one number of a third course. -/
def Meet (left right : RegionId → RegionId → Prop) (one other : RegionId) : Prop :=
  -- The third course is the one that both are compared with.
  ∃ third, left one third ∧ right other third

variable {left right : RegionId → RegionId → Prop}

/-- Actions that are the same as a third one up to numbers are so as each other. -/
theorem Action.Renumbered.meet {one other third : Action} (first : one.Renumbered left third)
    (second : other.Renumbered right third) : one.Renumbered (Meet left right) other := by
  -- Both mention the number that the third one mentions, which its digits tell.
  cases first with
  | @mention name mentions _ id linked rest =>
    generalize written : ({ name, args := .value (toString id.number) :: rest } : Action) = action
      at second
    cases second with
    | mention _ otherLinked _ =>
      simp only [Action.mk.injEq, List.cons.injEq, Argument.value.injEq] at written
      obtain ⟨rfl, number, rfl⟩ := written
      obtain rfl : id = _ := congrArg RegionId.mk (eq_of_repr_eq number)
      exact .mention mentions ⟨_, linked, otherLinked⟩ rest
    | silent quiet =>
      rw [← written] at quiet
      exact absurd mentions (Bool.eq_false_iff.mp quiet)
  | silent quiet =>
    cases second with
    | mention mentions => exact absurd mentions (Bool.eq_false_iff.mp quiet)
    | silent => exact .silent quiet

/-- Menu entries that are the same as a third one up to numbers are so as each other. -/
theorem MenuEntry.Renumbered.meet {one other third : MenuEntry}
    (first : one.Renumbered left third) (second : other.Renumbered right third) :
    one.Renumbered (Meet left right) other := by
  -- The third entry is of one kind, so the others are of the same.
  cases first with
  | action renumbered label icon statusTip =>
    cases second with
    | action otherRenumbered => exact .action (renumbered.meet otherRenumbered) label icon statusTip
    | plain quiet => cases quiet
  | plain quiet =>
    cases second with
    | action => cases quiet
    | plain => exact .plain quiet

/-- Lists that are related to a third one, place by place, are so to each other. -/
theorem forall₂_meet.{u} {α : Type u} {strong weak both : α → α → Prop}
    (meet : ∀ one other third, strong one third → weak other third → both one other)
    {ones others thirds : List α} (first : ones.Forall₂ strong thirds)
    (second : others.Forall₂ weak thirds) : ones.Forall₂ both others := by
  -- Induction on the first pair of lists, as the third list settles the length of both.
  induction first generalizing others with
  | nil =>
    cases second
    exact .nil
  | cons head _ ih =>
    obtain _ | ⟨otherHead, rest⟩ := second
    exact .cons (meet _ _ _ head otherHead) (ih rest)

/-- In lists that are related place by place, every member has a partner. -/
theorem partner_of_mem.{u} {α : Type u} {related : α → α → Prop} {ones others : List α}
    (same : ones.Forall₂ related others) {one : α} (member : one ∈ ones) :
    ∃ other ∈ others, related one other := by
  -- Induction on the lists, which are related element by element.
  induction same with
  | nil => cases member
  | cons head _ ih =>
    rcases List.mem_cons.mp member with rfl | later
    · exact ⟨_, List.mem_cons_self, head⟩
    · obtain ⟨other, present, equal⟩ := ih later
      exact ⟨other, List.mem_cons_of_mem _ present, equal⟩

/-- Metadata that is the same as a third one up to numbers is so as each other. -/
theorem Metadata.Renumbered.meet {one other third : Metadata} (first : one.Renumbered left third)
    (second : other.Renumbered right third) : one.Renumbered (Meet left right) other := by
  -- Part by part, through the parts of the third.
  refine ⟨first.icon.trans second.icon.symm, first.tooltip.trans second.tooltip.symm, ?_,
    first.drag.trans second.drag.symm,
    forall₂_meet (fun _ _ _ entry other => entry.meet other) first.menu second.menu⟩
  obtain ⟨_, _, primary, _, _⟩ := first
  obtain ⟨_, _, otherPrimary, _, _⟩ := second
  generalize one.primaryAction = action, other.primaryAction = otherAction,
    third.primaryAction = thirdAction at primary otherPrimary ⊢
  cases primary with
  | none =>
    cases otherPrimary
    exact .none
  | some renumbered =>
    cases otherPrimary with
    | some otherRenumbered => exact .some (renumbered.meet otherRenumbered)

/-- Metadata of one matcher that is the same as a third one is so as each other. -/
theorem Metadata.RenumberedFor.meet {matcher : String} {one other third : Metadata}
    (first : one.RenumberedFor matcher left third)
    (second : other.RenumberedFor matcher right third) :
    one.RenumberedFor matcher (Meet left right) other := by
  -- Builds are renumbered on both sides, and others are equal on both.
  unfold RenumberedFor at first second ⊢
  split
  · rename_i build
    rw [if_pos build] at first second
    exact first.meet second
  · rename_i foreign
    rw [if_neg foreign] at first second
    exact first.trans second.symm

end Meet

/-- The regions of a matcher in two courses are the same up to linked numbers. -/
structure Linked (link : RegionId → RegionId → Prop) (name : String)
    (regions others : List Region) : Prop where
  /-- The regions of the matcher are the same, one by one. -/
  same : (regions.filter (·.matcher == name)).Forall₂ (Region.Renumbered link)
    (others.filter (·.matcher == name))
  /-- Links keep numbers in order. -/
  ascending : ∀ {one other first second : RegionId}, link one first → link other second →
    (one.number < other.number ↔ first.number < second.number)
  /-- No number that is linked on this side is that of a region of another matcher. -/
  apart : ∀ {one first : RegionId}, link one first → ∀ region ∈ regions, region.id = one →
    region.matcher = name
  /-- No number that is linked on the other side is that of a region of another matcher. -/
  otherApart : ∀ {one first : RegionId}, link one first → ∀ region ∈ others, region.id = first →
    region.matcher = name

/--
Regions correspond through a renumbering: it takes different numbers to different ones, keeps those
of one matcher in order, and takes the regions of one course to those of the other one.
-/
structure Correspond (renumber : RegionId → RegionId) (regions others : List Region) : Prop where
  /-- Different numbers stay different. -/
  injective : ∀ one ∈ regions, ∀ other ∈ regions, renumber one.id = renumber other.id →
    one.id = other.id
  /-- The numbers of one matcher stay in order. -/
  ascending : ∀ one ∈ regions, ∀ other ∈ regions, one.matcher = other.matcher →
    one.id.number < other.id.number → (renumber one.id).number < (renumber other.id).number
  /-- The regions are the same, one by one, in some order. -/
  regions : ∃ listed, listed.Perm others ∧
    regions.Forall₂ (Region.Renumbered fun one other => renumber one = other) listed

/-- Lists whose regions of each matcher are related, place by place, are related up to order. -/
theorem exists_perm_of_filter {related : Region → Region → Prop} {regions others : List Region}
    (same : ∀ name, (regions.filter (·.matcher == name)).Forall₂ related
      (others.filter (·.matcher == name))) :
    ∃ listed, listed.Perm others ∧ regions.Forall₂ related listed := by
  -- The partner of the first region is taken out of the other list.
  induction regions generalizing others with
  | nil =>
    cases others with
    | nil => exact ⟨[], .nil, .nil⟩
    | cons other rest =>
      have related := same other.matcher
      rw [List.filter_cons_of_pos (by exact beq_self_eq_true _)] at related
      cases related
  | cons region rest ih =>
    have own := same region.matcher
    rw [List.filter_cons_of_pos (by exact beq_self_eq_true _)] at own
    generalize chosen : others.filter (·.matcher == region.matcher) = partners at own
    obtain _ | ⟨first, later⟩ := own
    obtain ⟨front, back, rfl, foreign, named, found⟩ := List.filter_eq_cons_iff.mp chosen
    have remaining : ∀ name, (rest.filter (·.matcher == name)).Forall₂ related
        ((front ++ back).filter (·.matcher == name)) := by
      intro name
      by_cases bears : region.matcher = name
      · subst bears
        rw [List.filter_append, List.filter_eq_nil_iff.mpr foreign, List.nil_append, found]
        exact later
      · have others := same name
        have skipped : (region.matcher == name) = false := beq_eq_false_iff_ne.mpr bears
        simp only [List.filter_append, List.filter_cons, beq_iff_eq.mp named, skipped,
          Bool.false_eq_true, if_false] at others ⊢
        exact others
    obtain ⟨listed, order, related⟩ := ih remaining
    exact ⟨_ :: listed, (order.cons _).trans List.perm_middle.symm, .cons first related⟩

namespace Linked

variable {link : RegionId → RegionId → Prop} {name : String} {regions others : List Region}

/-- Every region of the matcher has a partner. -/
theorem partner (linked : Linked link name regions others) {region : Region}
    (member : region ∈ regions) (named : region.matcher = name) :
    ∃ other ∈ others, link region.id other.id := by
  -- The regions of one matcher are related one by one.
  have own : region ∈ regions.filter (·.matcher == name) :=
    List.mem_filter.mpr ⟨member, beq_iff_eq.mpr named⟩
  obtain ⟨other, present, same⟩ := partner_of_mem linked.same own
  exact ⟨other, (List.mem_filter.mp present).1, same.id⟩

/-- A number is linked to one number at most. -/
theorem unique (linked : Linked link name regions others) {one first second : RegionId}
    (early : link one first) (late : link one second) : first = second := by
  -- The link ascends, so neither number is above the other.
  have below := linked.ascending early late
  have above := linked.ascending late early
  exact congrArg RegionId.mk (by omega : first.number = second.number)

/-- At most one number is linked to a number. -/
theorem injective (linked : Linked link name regions others) {one other first : RegionId}
    (early : link one first) (late : link other first) : one = other := by
  -- The link ascends, so neither number is above the other.
  have below := linked.ascending early late
  have above := linked.ascending late early
  exact congrArg RegionId.mk (by omega : one.number = other.number)

/-- The regions of the matcher alone are linked, too. -/
theorem alone (linked : Linked link name regions others) :
    Linked link name (regions.filter (·.matcher == name)) (others.filter (·.matcher == name)) where
  -- The regions of the matcher are the same after the others have been left out.
  same := by
    rw [List.filter_filter, List.filter_filter]
    simpa only [Bool.and_self] using linked.same
  ascending := linked.ascending
  apart holds region member := linked.apart holds region (List.mem_filter.mp member).1
  otherApart holds region member := linked.otherApart holds region (List.mem_filter.mp member).1

/-- Nothing needs to be linked for a matcher without regions. -/
theorem absent (none : ∀ region ∈ regions, region.matcher ≠ name)
    (otherNone : ∀ region ∈ others, region.matcher ≠ name) :
    Linked (fun _ _ => False) name regions others where
  -- Neither table has a region of the matcher to relate.
  same := by
    have empty {held : List Region} (none : ∀ region ∈ held, region.matcher ≠ name) :
        held.filter (·.matcher == name) = [] :=
      List.filter_eq_nil_iff.mpr fun region member same =>
        none region member (beq_iff_eq.mp same)
    rw [empty none, empty otherNone]
    exact .nil
  ascending holds := holds.elim
  apart holds := holds.elim
  otherApart holds := holds.elim

end Linked

section Correspond

variable {link : String → RegionId → RegionId → Prop} {regions others : List Region}

open Classical in
/-- A number is renumbered by the links of the matcher that holds it. -/
noncomputable def renumbering (link : String → RegionId → RegionId → Prop) (id : RegionId) :
    RegionId :=
  -- A number that no region bears can only be mentioned by the build matcher.
  if known : ∃ other, link Make.matcherName id other then known.choose
  else if known : ∃ name other, link name id other then known.choose_spec.choose
  else id

/-- A link is followed from a number that a region bears, or if it is one of the build matcher. -/
theorem renumbering_eq (linked : ∀ name, Linked (link name) name regions others) {name : String}
    {one other : RegionId} (holds : link name one other)
    (bears : name = Make.matcherName ∨ ∃ region ∈ regions, region.id = one) :
    renumbering link one = other := by
  -- Builds are asked first, and apart from their mentions a number belongs to one matcher.
  by_cases build : ∃ other, link Make.matcherName one other
  · -- The number is linked for builds, so the region that bears it is a build's own.
    have chosen : renumbering link one = build.choose := dif_pos build
    have named : name = Make.matcherName := by
      rcases bears with same | ⟨region, member, same⟩
      · exact same
      · exact ((linked name).apart holds region member same).symm.trans
          ((linked _).apart build.choose_spec region member same)
    subst named
    rw [chosen]
    exact (linked _).unique build.choose_spec holds
  · rcases bears with rfl | ⟨region, member, same⟩
    · exact absurd ⟨other, holds⟩ build
    · have known : ∃ name other, link name one other := ⟨name, other, holds⟩
      -- No build knows the number, so it is linked for the matcher whose region bears it.
      have chosen : renumbering link one = known.choose_spec.choose :=
        (dif_neg build).trans (dif_pos known)
      have named : known.choose = name :=
        ((linked _).apart known.choose_spec.choose_spec region member same).symm.trans
          ((linked name).apart holds region member same)
      have spec := known.choose_spec.choose_spec
      rw [chosen]
      exact (linked name).unique (named ▸ spec) holds

/-- Every region has a partner, which bears the number that it is given. -/
theorem renumbering_partner (linked : ∀ name, Linked (link name) name regions others)
    {region : Region} (member : region ∈ regions) :
    ∃ other ∈ others, link region.matcher region.id other.id ∧
      renumbering link region.id = other.id := by
  -- A region is linked under its own matcher, where its number has one partner.
  obtain ⟨other, present, holds⟩ := (linked region.matcher).partner member rfl
  exact ⟨other, present, holds, renumbering_eq linked holds (.inr ⟨region, member, rfl⟩)⟩

/-- Courses whose regions of each matcher are linked have regions that correspond. -/
theorem correspond_of_linked (linked : ∀ name, ∃ link, Linked link name regions others) :
    ∃ renumber, Correspond renumber regions others := by
  -- The links of the matchers are joined to one renumbering of all their regions.
  choose link linked using linked
  refine ⟨renumbering link, fun one member other present same => ?_,
    fun one member other present same below => ?_, exists_perm_of_filter fun name => ?_⟩
  · obtain ⟨first, _, holds, reached⟩ := renumbering_partner linked member
    obtain ⟨second, stored, otherHolds, otherReached⟩ := renumbering_partner linked present
    have equal : second.id = first.id := otherReached.symm.trans (same.symm.trans reached)
    -- The partners have one number, so both were made by one matcher.
    have named := (linked one.matcher).otherApart holds second stored equal
    have otherNamed := (linked other.matcher).otherApart otherHolds second stored rfl
    rw [← otherNamed, named, equal] at otherHolds
    exact (linked one.matcher).injective holds otherHolds
  · obtain ⟨first, _, holds, reached⟩ := renumbering_partner linked member
    obtain ⟨second, _, otherHolds, otherReached⟩ := renumbering_partner linked present
    rw [reached, otherReached]
    exact ((linked one.matcher).ascending holds (same ▸ otherHolds)).mp below
  · have own : ∀ region ∈ regions.filter (·.matcher == name),
        region ∈ regions ∧ region.matcher = name := fun region member =>
      (List.mem_filter.mp member).imp_right beq_iff_eq.mp
    refine ((List.forall₂_and_left _ _).mpr ⟨own, (linked name).same⟩).imp ?_
    rintro region other ⟨⟨member, rfl⟩, same⟩
    refine same.mono fun first second holds needed => renumbering_eq linked holds ?_
    exact needed.imp_right fun equal => ⟨region, member, equal.symm⟩

end Correspond

end Annotator

import Annotator.Proofs.Action.Reserved
import Annotator.Region.Table
import Mathlib.Data.List.Forall2

/-! A pairing matches the numbers of two courses, so that what mentions numbers can be compared. -/

namespace Annotator

/-- Two attempts agree when both give related values or both fail with related errors. -/
inductive Agree {ε α : Type} (errors : ε → ε → Prop) (values : α → α → Prop) :
    Except ε α → Except ε α → Prop
  /-- Both give a value. -/
  | ok {value other : α} (related : values value other) :
    Agree errors values (.ok value) (.ok other)
  /-- Both fail. -/
  | error {reason other : ε} (related : errors reason other) :
    Agree errors values (.error reason) (.error other)

/-- Two options that agree still do so when less is asked of their values. -/
theorem related_mono.{u} {α : Type u} {strong weak : α → α → Prop}
    (weaker : ∀ one other, strong one other → weak one other) {one other : Option α}
    (related : Option.Rel strong one other) : Option.Rel weak one other := by
  -- The values are related where there are two, and otherwise there is none.
  cases related with
  | some same => exact .some (weaker _ _ same)
  | none => exact .none

/-- An option agrees with itself when every value does. -/
theorem related_refl.{u} {α : Type u} {relation : α → α → Prop}
    (same : ∀ value, relation value value) (value : Option α) :
    Option.Rel relation value value := by
  -- A value is related to itself if there is one.
  cases value with
  | none => exact .none
  | some held => exact .some (same held)

/-- Without pairs no number is out of order. -/
theorem noPairs_ascending : ([] : List (RegionId × RegionId)).Pairwise fun early late =>
    early.1.number < late.1.number ∧ early.2.number < late.2.number :=
  -- There are no two pairs to compare.
  List.Pairwise.nil

/-- A pairing matches region numbers of one course with those of another, in the same order. -/
structure Pairing where
  /-- The pairs in the order in which their numbers were issued. -/
  pairs : List (RegionId × RegionId) := []
  /-- Of two pairs, the later one has the larger number on either side. -/
  ascending : pairs.Pairwise fun early late =>
    early.1.number < late.1.number ∧ early.2.number < late.2.number := by
      exact noPairs_ascending

namespace Pairing

/-- A pairing is part of another one when all its pairs are. -/
def Within (pairing later : Pairing) : Prop :=
  -- Pairs are only added.
  pairing.pairs ⊆ later.pairs

/-- A pairing is part of itself. -/
theorem Within.refl (pairing : Pairing) : pairing.Within pairing :=
  -- The pairs are the same.
  List.Subset.refl _

/-- A part of a part is a part. -/
theorem Within.trans {first second third : Pairing} (early : first.Within second)
    (late : second.Within third) : first.Within third :=
  -- Pairs of the first are pairs of the second, and these of the third.
  List.Subset.trans early late

/-- Two numbers are paired. -/
def Paired (pairing : Pairing) (one other : RegionId) : Prop :=
  -- The number of the first course stands first.
  (one, other) ∈ pairing.pairs

/-- A pairing is extended by two numbers that are larger than all others. -/
def extend (pairing : Pairing) (one other : RegionId)
    (above : ∀ early late, pairing.Paired early late →
      early.number < one.number ∧ late.number < other.number) : Pairing where
  pairs := pairing.pairs ++ [(one, other)]
  ascending := by
    -- The new pair stands behind all others.
    refine List.pairwise_append.mpr ⟨pairing.ascending, List.pairwise_singleton _ _, ?_⟩
    intro old member new added
    rw [List.mem_singleton.mp added]
    exact above old.1 old.2 member

/-- Numbers that an extension pairs were paired before or are the new ones. -/
theorem paired_extend {pairing : Pairing} {one other : RegionId}
    {above : ∀ early late, pairing.Paired early late →
      early.number < one.number ∧ late.number < other.number} {first second : RegionId} :
    (pairing.extend one other above).Paired first second ↔
      pairing.Paired first second ∨ (first = one ∧ second = other) := by
  -- The new pair is the last of the extended pairing.
  simp [Paired, extend]

/-- Paired numbers are in the same order on either side. -/
theorem Paired.lt_iff {pairing : Pairing} {one other first second : RegionId}
    (early : pairing.Paired one first) (late : pairing.Paired other second) :
    one.number < other.number ↔ first.number < second.number := by
  -- The pairs stand in the pairing at places whose order is the order of both their numbers.
  obtain ⟨place, bound, here⟩ := List.getElem_of_mem early
  obtain ⟨behind, within, there⟩ := List.getElem_of_mem late
  have ascending := List.pairwise_iff_getElem.mp pairing.ascending
  rcases Nat.lt_trichotomy place behind with less | rfl | more
  · have order := ascending place behind bound within less
    rw [here, there] at order
    exact iff_of_true order.1 order.2
  · cases here.symm.trans there
    exact iff_of_false (Nat.lt_irrefl _) (Nat.lt_irrefl _)
  · have order := ascending behind place within bound more
    rw [here, there] at order
    exact iff_of_false (Nat.lt_asymm order.1) (Nat.lt_asymm order.2)

/-- Two character lists are the same up to paired numbers that are written out in them. -/
inductive SameChars (pairing : Pairing) : List Char → List Char → Prop
  /-- Nothing is left. -/
  | nil : SameChars pairing [] []
  /-- Both go on with the same character. -/
  | char (c : Char) {rest other : List Char} (same : SameChars pairing rest other) :
    SameChars pairing (c :: rest) (c :: other)
  /-- Both go on with a number, and the numbers are paired. -/
  | number {first second : RegionId} (paired : pairing.Paired first second)
    {rest other : List Char} (same : SameChars pairing rest other) :
    SameChars pairing (first.number.repr.toList ++ rest) (second.number.repr.toList ++ other)

/-- Two texts are the same up to paired numbers. -/
def SameText (pairing : Pairing) (one other : String) : Prop :=
  -- Texts are compared character by character.
  pairing.SameChars one.toList other.toList

/-- Two arguments are the same up to paired numbers. -/
inductive SameArgument (pairing : Pairing) : Argument → Argument → Prop
  /-- Both are plain. -/
  | value {one other : String} (same : pairing.SameText one other) :
    SameArgument pairing (.value one) (.value other)
  /-- Both are lists. -/
  | list {items others : List String} (same : items.Forall₂ pairing.SameText others) :
    SameArgument pairing (.list items) (.list others)

/-- Two actions are the same up to paired numbers. -/
structure SameAction (pairing : Pairing) (one other : Action) : Prop where
  /-- The names are the same. -/
  name : pairing.SameText one.name other.name
  /-- The arguments are the same. -/
  args : one.args.Forall₂ pairing.SameArgument other.args

/-- Two menu entries are the same up to paired numbers. -/
inductive SameEntry (pairing : Pairing) : MenuEntry → MenuEntry → Prop
  /-- Both run an action. -/
  | action {chosen otherChosen : Action} {label otherLabel : String}
    {icon otherIcon tip otherTip : Option String}
    (sameChosen : pairing.SameAction chosen otherChosen)
    (sameLabel : pairing.SameText label otherLabel)
    (sameIcon : Option.Rel pairing.SameText icon otherIcon)
    (sameTip : Option.Rel pairing.SameText tip otherTip) :
    SameEntry pairing (.action chosen label icon tip)
      (.action otherChosen otherLabel otherIcon otherTip)
  /-- Both separate. -/
  | separator : SameEntry pairing .separator .separator
  /-- Both ask. -/
  | confirm {prompt other : String} (same : pairing.SameText prompt other) :
    SameEntry pairing (.confirm prompt) (.confirm other)
  /-- Both borrow a menu. -/
  | mergeSubmenu {uri otherUri label otherLabel : String}
    (sameUri : pairing.SameText uri otherUri) (sameLabel : pairing.SameText label otherLabel) :
    SameEntry pairing (.mergeSubmenu uri label) (.mergeSubmenu otherUri otherLabel)

/-- Two drag payloads are the same up to paired numbers. -/
def SamePayload (pairing : Pairing) (one other : String × String) : Prop :=
  -- Media types are compared like payloads.
  pairing.SameText one.1 other.1 ∧ pairing.SameText one.2 other.2

/-- Two pieces of metadata are the same up to paired numbers. -/
structure SameMetadata (pairing : Pairing) (one other : Metadata) : Prop where
  /-- The icons are the same. -/
  icon : Option.Rel pairing.SameText one.icon other.icon
  /-- The tooltips are the same. -/
  tooltip : Option.Rel pairing.SameText one.tooltip other.tooltip
  /-- The primary actions are the same. -/
  primaryAction : Option.Rel pairing.SameAction one.primaryAction other.primaryAction
  /-- The drag payloads are the same. -/
  drag : one.drag.pairs.Forall₂ pairing.SamePayload other.drag.pairs
  /-- The menus are the same. -/
  menu : one.menu.Forall₂ pairing.SameEntry other.menu

/-- Two action errors are the same up to paired numbers. -/
inductive SameActionError (pairing : Pairing) : ActionError → ActionError → Prop
  /-- Both report a reserved character. -/
  | reservedDelimiter {action otherAction value otherValue : String}
    (sameAction : pairing.SameText action otherAction)
    (sameValue : pairing.SameText value otherValue) :
    SameActionError pairing (.reservedDelimiter action value)
      (.reservedDelimiter otherAction otherValue)
  /-- Both report a malformed text. -/
  | malformed {wire other : String} (same : pairing.SameText wire other) :
    SameActionError pairing (.malformed wire) (.malformed other)

/-- Two region errors are the same up to paired numbers. -/
inductive SameError (pairing : Pairing) : RegionError → RegionError → Prop
  /-- Errors about spans and positions mention no region. -/
  | refl (error : RegionError) : SameError pairing error error
  /-- Both report an invalid action. -/
  | invalidAction {error other : ActionError} (same : pairing.SameActionError error other) :
    SameError pairing (.invalidAction error) (.invalidAction other)

/-- Two regions are the same up to paired numbers, their own number being one of them. -/
structure SameRegion (pairing : Pairing) (limits : Limits) (one other : Region) : Prop where
  /-- Their own numbers are paired. -/
  id : pairing.Paired one.id other.id
  /-- The invocations are the same. -/
  invocation : one.invocation = other.invocation
  /-- The matchers have the same name. -/
  matcher : one.matcher = other.matcher
  /-- The regions begin at the same place. -/
  start : one.start = other.start
  /-- The regions end at the same place. -/
  stop : one.stop = other.stop
  /-- What they show is cut from metadata that is the same. -/
  metadata : ∃ given otherGiven, pairing.SameMetadata given otherGiven ∧
    one.metadata = given.limited limits ∧ other.metadata = otherGiven.limited limits

section Refl

variable (pairing : Pairing)

/-- Characters are the same as themselves. -/
theorem SameChars.refl (text : List Char) : pairing.SameChars text text := by
  -- Induction on the text, character by character.
  induction text with
  | nil => exact .nil
  | cons c rest ih => exact .char c ih

/-- A text is the same as itself. -/
theorem SameText.refl (text : String) : pairing.SameText text text :=
  -- Texts are compared by their characters.
  SameChars.refl pairing text.toList

/-- An argument is the same as itself. -/
theorem SameArgument.refl (argument : Argument) : pairing.SameArgument argument argument := by
  -- A list is compared item by item.
  cases argument with
  | value text => exact .value (.refl pairing text)
  | list items => exact .list (List.forall₂_same.mpr fun text _ => .refl pairing text)

/-- An action is the same as itself. -/
theorem SameAction.refl (action : Action) : pairing.SameAction action action :=
  -- The arguments are compared one by one.
  ⟨.refl pairing action.name, List.forall₂_same.mpr fun argument _ => .refl pairing argument⟩

/-- A menu entry is the same as itself. -/
theorem SameEntry.refl (entry : MenuEntry) : pairing.SameEntry entry entry := by
  -- One case for each kind of entry.
  have texts (text : Option String) : Option.Rel pairing.SameText text text :=
    related_refl (.refl pairing) text
  cases entry with
  | action chosen label icon tip =>
    exact .action (.refl pairing chosen) (.refl pairing label) (texts icon) (texts tip)
  | separator => exact .separator
  | confirm prompt => exact .confirm (.refl pairing prompt)
  | mergeSubmenu uri label => exact .mergeSubmenu (.refl pairing uri) (.refl pairing label)

/-- Metadata is the same as itself. -/
theorem SameMetadata.refl (metadata : Metadata) : pairing.SameMetadata metadata metadata where
  -- Part by part.
  icon := related_refl (.refl pairing) metadata.icon
  tooltip := related_refl (.refl pairing) metadata.tooltip
  primaryAction := related_refl (.refl pairing) metadata.primaryAction
  drag := List.forall₂_same.mpr fun pair _ => ⟨.refl pairing pair.1, .refl pairing pair.2⟩
  menu := List.forall₂_same.mpr fun entry _ => .refl pairing entry

end Refl

section Mono

variable {pairing later : Pairing}

/-- More pairs make no fewer characters the same. -/
theorem SameChars.mono (within : pairing.Within later) {one other : List Char}
    (same : pairing.SameChars one other) : later.SameChars one other := by
  -- Induction on how the texts are the same, which is kept at each number.
  induction same with
  | nil => exact .nil
  | char c same ih => exact .char c ih
  | number paired same ih => exact .number (within paired) ih

/-- More pairs make no fewer texts the same. -/
theorem SameText.mono (within : pairing.Within later) {one other : String}
    (same : pairing.SameText one other) : later.SameText one other :=
  -- Texts are compared by their characters.
  SameChars.mono within same

/-- More pairs make no fewer actions the same. -/
theorem SameAction.mono (within : pairing.Within later) {one other : Action}
    (same : pairing.SameAction one other) : later.SameAction one other := by
  -- The arguments are compared one by one.
  refine ⟨same.name.mono within, same.args.imp fun argument otherArgument related => ?_⟩
  cases related with
  | value equal => exact .value (equal.mono within)
  | list equal => exact .list (equal.imp fun _ _ text => text.mono within)

/-- More pairs make no fewer metadata the same. -/
theorem SameMetadata.mono (within : pairing.Within later) {one other : Metadata}
    (same : pairing.SameMetadata one other) : later.SameMetadata one other := by
  -- Every part carries texts, and these stay the same.
  have texts {text otherText : Option String}
      (related : Option.Rel pairing.SameText text otherText) :
      Option.Rel later.SameText text otherText :=
    related_mono (fun _ _ equal => equal.mono within) related
  refine ⟨texts same.icon, texts same.tooltip,
    related_mono (fun _ _ equal => equal.mono within) same.primaryAction,
    same.drag.imp fun _ _ pair => ⟨pair.1.mono within, pair.2.mono within⟩,
    same.menu.imp fun entry otherEntry related => ?_⟩
  cases related with
  | action chosen label icon tip =>
    exact .action (chosen.mono within) (label.mono within) (texts icon) (texts tip)
  | separator => exact .separator
  | confirm prompt => exact .confirm (prompt.mono within)
  | mergeSubmenu uri label => exact .mergeSubmenu (uri.mono within) (label.mono within)

/-- More pairs make no fewer regions the same. -/
theorem SameRegion.mono (within : pairing.Within later) {limits : Limits} {one other : Region}
    (same : pairing.SameRegion limits one other) : later.SameRegion limits one other := by
  -- Only the number and the metadata refer to the pairing.
  obtain ⟨given, otherGiven, equal, cut, otherCut⟩ := same.metadata
  exact ⟨within same.id, same.invocation, same.matcher, same.start, same.stop, given, otherGiven,
    equal.mono within, cut, otherCut⟩

end Mono

section Validate

variable {pairing : Pairing}

/-- A written number that is paired is the same as its partner. -/
theorem SameText.number {one other : RegionId} (paired : pairing.Paired one other) :
    pairing.SameText one.number.repr other.number.repr := by
  -- The digits of the numbers are the whole texts.
  have whole : pairing.SameChars (one.number.repr.toList ++ []) (other.number.repr.toList ++ []) :=
    .number paired .nil
  simpa [SameText] using whole

/-- Characters that are the same are reserved alike. -/
theorem SameChars.any_isReserved {one other : List Char} (same : pairing.SameChars one other) :
    one.any isReserved = other.any isReserved := by
  -- Written numbers have no reserved character.
  have clean (number : Nat) : number.repr.toList.any isReserved = false := hasReserved_repr number
  induction same with
  | nil => rfl
  | char c same ih => rw [List.any_cons, List.any_cons, ih]
  | number paired same ih => rw [List.any_append, List.any_append, ih, clean, clean]

/-- Characters that are the same run out alike. -/
theorem SameChars.eq_nil_iff {one other : List Char} (same : pairing.SameChars one other) :
    one = [] ↔ other = [] := by
  -- A written number has at least one digit.
  cases same with
  | nil => exact Iff.rfl
  | char c same => simp
  | number paired same => simp

/-- Texts that are the same have reserved characters alike. -/
theorem SameText.hasReserved {one other : String} (same : pairing.SameText one other) :
    hasReserved one = hasReserved other :=
  -- Digits are never reserved, so numbers do not matter for it.
  SameChars.any_isReserved same

/-- Texts that are the same are empty alike. -/
theorem SameText.isEmpty {one other : String} (same : pairing.SameText one other) :
    one.isEmpty = other.isEmpty := by
  -- A number has one digit at least, so neither text is empty where it stands.
  rw [Bool.eq_iff_iff, String.isEmpty_iff, String.isEmpty_iff, ← String.toList_eq_nil_iff,
    ← String.toList_eq_nil_iff]
  exact SameChars.eq_nil_iff same

/-- Actions that are the same have the same texts. -/
theorem SameAction.texts {one other : Action} (same : pairing.SameAction one other) :
    one.texts.Forall₂ pairing.SameText other.texts := by
  -- An argument contributes its one text or all its items.
  refine .cons same.name (List.rel_flatMap same.args fun argument otherArgument related => ?_)
  cases related with
  | value equal => exact .cons equal .nil
  | list equal => exact equal

/-- The first texts with a reserved character are the same. -/
theorem find_hasReserved {texts others : List String}
    (same : texts.Forall₂ pairing.SameText others) :
    Option.Rel pairing.SameText (texts.find? hasReserved) (others.find? hasReserved) := by
  -- Induction on the texts, which are reserved alike.
  induction same with
  | nil => exact .none
  | @cons text other rest others equal same ih =>
    rw [List.find?_cons, List.find?_cons, equal.hasReserved]
    cases hasReserved other with
    | true => exact .some equal
    | false => exact ih

/-- Actions that are the same are valid alike. -/
theorem SameAction.validate {one other : Action} (same : pairing.SameAction one other) :
    Agree pairing.SameActionError (fun _ _ => True) one.validate other.validate := by
  -- The names are empty alike, and the first reserved texts stand at the same place.
  unfold Action.validate
  rw [same.name.isEmpty]
  split
  · exact .error (.malformed (.refl pairing ""))
  · have found := find_hasReserved same.texts
    generalize one.texts.find? hasReserved = first,
      other.texts.find? hasReserved = second at found ⊢
    cases found with
    | none => exact .ok trivial
    | some equal => exact .error (.reservedDelimiter same.name equal)

/-- Metadata that is the same has the same actions. -/
theorem SameMetadata.actions {one other : Metadata} (same : pairing.SameMetadata one other) :
    one.actions.Forall₂ pairing.SameAction other.actions := by
  -- The primary actions come first, then those of the entries in order.
  refine List.rel_append ?_ (List.rel_filterMap (fun entry otherEntry related => ?_) same.menu)
  · have primary := same.primaryAction
    generalize one.primaryAction = first, other.primaryAction = second at primary ⊢
    cases primary with
    | none => exact .nil
    | some equal => exact .cons equal .nil
  · cases related with
    | action chosen label icon tip => exact .some chosen
    | separator => exact .none
    | confirm prompt => exact .none
    | mergeSubmenu uri label => exact .none

/-- Metadata that is the same is valid alike. -/
theorem SameMetadata.validate {one other : Metadata} (same : pairing.SameMetadata one other) :
    Agree pairing.SameActionError (fun _ _ => True) one.validate other.validate := by
  -- The actions are checked one after the other, and corresponding ones pass or fail alike.
  have actions := same.actions
  unfold Metadata.validate
  generalize one.actions = first, other.actions = second at actions ⊢
  -- The first invalid action is found at the same place.
  induction actions with
  | nil => exact .ok trivial
  | @cons action otherAction rest others equal _ ih =>
    show Agree _ _ (action.validate >>= fun _ => rest.forM Action.validate)
      (otherAction.validate >>= fun _ => others.forM Action.validate)
    have checked := equal.validate
    generalize action.validate = answer, otherAction.validate = otherAnswer at checked ⊢
    cases checked with
    | ok _ => exact ih
    | error reason => exact .error reason

end Validate

end Pairing

end Annotator

import Annotator.Region.Metadata

/-! Metadata is valid when every action in it is, wherever the action stands. -/

namespace Annotator

/-- An entry is valid when the action it runs is, if it runs one. -/
def MenuEntry.Valid (entry : MenuEntry) : Prop :=
  -- All other entries have nothing to check.
  ∀ action, entry.action? = some action → action.validate = .ok ()

namespace MenuEntry

/-- An entry made from an action is valid when the action is. -/
@[simp] theorem valid_ofAction {action : Action} {label icon tip : String} :
    (ofAction action label icon tip).Valid ↔ action.validate = .ok () := by
  -- The entry runs its one action.
  simp [Valid, ofAction, action?]

/-- A line between entries is valid. -/
@[simp] theorem valid_separator : MenuEntry.separator.Valid := by
  -- There is no action to check.
  simp [Valid, action?]

/-- A question is valid. -/
@[simp] theorem valid_confirm {prompt : String} : (MenuEntry.confirm prompt).Valid := by
  -- There is no action to check.
  simp [Valid, action?]

/-- A borrowed menu is valid. -/
@[simp] theorem valid_mergeSubmenu {uri label : String} :
    (MenuEntry.mergeSubmenu uri label).Valid := by
  -- There is no action to check.
  simp [Valid, action?]

end MenuEntry

namespace Metadata

/-- Metadata is valid exactly when each of its actions is. -/
theorem validate_eq_ok_iff {metadata : Metadata} :
    metadata.validate = .ok () ↔ ∀ action ∈ metadata.actions, action.validate = .ok () := by
  -- The check passes over the actions in order and ends at the first invalid one.
  unfold validate
  induction metadata.actions with
  | nil => simp [pure, Except.pure]
  | cons action rest ih =>
    cases checked : action.validate with
    | error error => simp [checked, bind, Except.bind]
    | ok done => simpa [checked, bind, Except.bind] using ih

/-- Limits only take actions away. -/
theorem mem_actions_of_limited {limits : Limits} {metadata : Metadata} {action : Action}
    (member : action ∈ (metadata.limited limits).actions) : action ∈ metadata.actions := by
  -- The primary action is kept and the menu is cut at its end.
  simp only [actions, limited, List.mem_append, List.mem_filterMap] at member ⊢
  refine member.imp_right fun ⟨entry, taken, chosen⟩ => ⟨entry, List.mem_of_mem_take taken, chosen⟩

/-- All actions of metadata are its primary action and those that its entries run. -/
theorem forall_actions_iff {property : Action → Prop} {metadata : Metadata} :
    (∀ action ∈ metadata.actions, property action) ↔
      (∀ action, metadata.primaryAction = some action → property action) ∧
        ∀ entry ∈ metadata.menu, ∀ action, entry.action? = some action → property action := by
  -- An action of the metadata is the primary one or that of an entry.
  simp only [actions, List.mem_append, Option.mem_toList, List.mem_filterMap]
  constructor
  · intro all
    exact ⟨fun action primary => all action (.inl primary),
      fun entry member action chosen => all action (.inr ⟨entry, member, chosen⟩)⟩
  · rintro ⟨primary, menu⟩ action (chosen | ⟨entry, member, chosen⟩)
    · exact primary action chosen
    · exact menu entry member action chosen

/-- Metadata is valid when its primary action and all its entries are. -/
theorem validate_eq_ok_iff_parts {metadata : Metadata} :
    metadata.validate = .ok () ↔
      (∀ action, metadata.primaryAction = some action → action.validate = .ok ()) ∧
        ∀ entry ∈ metadata.menu, entry.Valid :=
  -- Metadata are valid when their actions are.
  validate_eq_ok_iff.trans forall_actions_iff

end Metadata

end Annotator

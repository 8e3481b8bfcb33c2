import Annotator.Proofs.Hook.Described
import Annotator.Proofs.Tracker.Course
import Annotator.Settings.Validate
import Mathlib.Data.List.Basic

/-! Cutting a menu can part an action from its confirmation, if it cuts right between the two. -/

namespace Annotator

namespace Metadata

/-- The entry at a place is an action, and the entry behind it asks for confirmation. -/
def AsksAt (metadata : Metadata) (place : Nat) : Prop :=
  -- A confirmation guards no more than the entry in front of it.
  ∃ chosen label icon statusTip prompt,
    metadata.menu[place]? = some (.action chosen label icon statusTip) ∧
      metadata.menu[place + 1]? = some (.confirm prompt)

/-- Under limits every action that asked for confirmation is gone, or asks as before. -/
def StaysGuarded (limits : Limits) (metadata : Metadata) : Prop :=
  -- Entries keep their places, since menus are cut at their end.
  ∀ place, metadata.AsksAt place →
    let kept := (metadata.limited limits).menu
    kept[place]? = none ∨
      kept[place]? = metadata.menu[place]? ∧ kept[place + 1]? = metadata.menu[place + 1]?

/-- Exactly a cut behind the action parts an action from its confirmation. -/
theorem staysGuarded_iff {limits : Limits} {metadata : Metadata} :
    metadata.StaysGuarded limits ↔
      ∀ place, metadata.AsksAt place → limits.menuEntries ≠ place + 1 := by
  -- An action loses its question only when the menu is cut right behind the action.
  unfold StaysGuarded
  refine forall₂_congr fun place asks => ?_
  obtain ⟨chosen, label, icon, statusTip, prompt, action, question⟩ := asks
  -- What is left of the menu is its front.
  simp only [limited, List.getElem?_take]
  by_cases gone : limits.menuEntries ≤ place
  · simp only [Nat.not_lt.mpr gone, if_false, true_or, true_iff]
    omega
  · by_cases cut : limits.menuEntries = place + 1
    · simp [cut, action, question]
    · have both : place < limits.menuEntries ∧ place + 1 < limits.menuEntries := by omega
      simp [both, cut]

/-- The places of a menu at which an action asks for confirmation, counted from a first one. -/
def askingPlaces (first : Nat) : List MenuEntry → List Nat
  -- The confirmation itself is no action.
  | .action .. :: .confirm _ :: rest => first :: askingPlaces (first + 2) rest
  | _ :: rest => askingPlaces (first + 1) rest
  | [] => []

/-- The place of an action with a confirmation behind it is found. -/
theorem mem_askingPlaces {menu : List MenuEntry} (first : Nat) {place : Nat} {chosen : Action}
    {label : String} {icon statusTip : Option String} {prompt : String}
    (action : menu[place]? = some (.action chosen label icon statusTip))
    (question : menu[place + 1]? = some (.confirm prompt)) :
    first + place ∈ askingPlaces first menu := by
  -- Induction along the search, which skips both entries where it finds such a pair.
  induction first, menu using askingPlaces.induct generalizing place with
  | case1 first chosen' label' icon' statusTip' prompt' rest ih =>
    rw [askingPlaces]
    match place with
    | 0 => exact List.mem_cons_self
    | 1 => cases action
    | place + 2 =>
      have later := ih action question
      exact List.mem_cons_of_mem _ (by rwa [Nat.add_right_comm, Nat.add_assoc] at later)
  | case2 first entry rest other ih =>
    rw [askingPlaces]
    · match place with
      | 0 =>
        -- The entry is an action with a confirmation behind it after all.
        cases rest with
        | nil => cases question
        | cons next rest =>
          cases action
          cases question
          exact absurd rfl (other _ _ _ _ _ _ rfl)
      | place + 1 =>
        have later := ih action question
        rwa [Nat.add_right_comm, Nat.add_assoc] at later
    · exact other
  | case3 first => cases action

end Metadata

namespace Builtin

/-- The places at which the menus of built-in matchers ask for confirmation. -/
def askedPlaces : List Nat :=
  -- The menu of the status matcher depends on the section.
  [2, 4, 5, 6, 7, 8, 10]

/-- Built-in matchers ask for confirmation at few places of their menus. -/
theorem Describes.asks {metadata : Metadata} (describes : Describes metadata) {place : Nat}
    (asks : metadata.AsksAt place) : place ∈ askedPlaces := by
  -- The search runs over each menu that is offered, whose entries are fixed but for their texts.
  have places : Metadata.askingPlaces 0 metadata.menu ⊆ askedPlaces := by
    cases describes with
    | container site name => exact (by decide : [5] ⊆ askedPlaces)
    | image site name => exact List.nil_subset _
    | pod site name => exact (by decide : [5] ⊆ askedPlaces)
    | deployment site name => exact (by decide : [2] ⊆ askedPlaces)
    | machine site name => exact (by decide : [7] ⊆ askedPlaces)
    | machineImage site name => exact List.nil_subset _
    | file site part file =>
      cases part with
      | staged => exact (by decide : [6, 8] ⊆ askedPlaces)
      | modified => exact (by decide : [2, 8, 10] ⊆ askedPlaces)
      | conflicted => exact (by decide : [2, 8, 10] ⊆ askedPlaces)
      | untracked => exact (by decide : [2, 8, 10] ⊆ askedPlaces)
      | ignored => exact (by decide : [4, 6] ⊆ askedPlaces)
    | located site launcher id kind path place => exact List.nil_subset _
    | bare site id kind => exact List.nil_subset _
    | jump firstError => exact List.nil_subset _
  obtain ⟨chosen, label, icon, statusTip, prompt, action, question⟩ := asks
  have asked := Metadata.mem_askingPlaces 0 action question
  rw [Nat.zero_add] at asked
  exact places asked

end Builtin

/--
A cap on menus parts an action from its confirmation exactly if it cuts right behind the action.
The built-in matchers give no menu that any other than seven small caps could cut like this.
-/
theorem confirmations_stay_guarding (limits : Limits) :
    (∀ metadata : Metadata, metadata.StaysGuarded limits ↔
      ∀ place, metadata.AsksAt place → limits.menuEntries ≠ place + 1) ∧
    (limits.menuEntries ∉ [3, 5, 6, 7, 8, 9, 11] →
      ∀ builtin ∈ Builtin.all, ∀ (settings : MatcherSettings) (make : MakeSettings) (site : Site)
        (notes : List Note) (matcher : Matcher),
        (builtin.factory settings make).create site = (notes, .ok matcher) →
          matcher.machine.Offers fun given => given.StaysGuarded limits) := by
  -- An action loses its confirmation exactly where the cut falls between the two.
  refine ⟨fun metadata => Metadata.staysGuarded_iff, ?_⟩
  intro spared builtin member settings make site notes matcher built
  refine (Builtin.factory_describes member settings make built).mono ?_
  intro given describes
  rw [Metadata.staysGuarded_iff]
  intro place asks cut
  have asked := describes.asks asks
  simp only [Builtin.askedPlaces, List.mem_cons, List.not_mem_nil, or_false] at asked spared
  omega

/-- Under valid settings a stored region offers to discard all changes and does not ask first. -/
theorem confirmation_cut_off :
    let settings : Settings := { limits := { menuEntries := 11 } }
    let start := Tracker.ofSettings (Registry.builtins settings).1 settings
    let operations : List Operation :=
      [.begin { command := "git status", workingDir := "/w", server := "srv-1", host := "h"
                exitCode := some 0 },
        .pushRow ⟨1⟩ "Changes not staged for commit:" false,
        .pushRow ⟨1⟩ "        modified:   a.txt" false, .finish ⟨1⟩ 0 2]
    let site : Site :=
      { command := "git status", server := "srv-1", terminal := "", host := "h", baseDir := "/w/" }
    let given := WorkTree.describeFile site .modified "a.txt"
    settings.validate = .ok () ∧
      (start.course operations).tracker.table.regions.map (·.metadata) =
        [given.limited settings.limits] ∧
      ((given.limited settings.limits).menu.getLast?.bind (·.label?)) = some "Reset Hard" ∧
      ¬ given.StaysGuarded settings.limits := by
  -- The description of a modified file has its action at the eleventh place.
  intro settings start operations site given
  refine ⟨by decide, by decide +kernel, by decide, fun stays => ?_⟩
  -- The action is the last entry that is kept.
  have guarded := stays 10 ⟨_, _, _, _, _, rfl, rfl⟩
  revert guarded
  decide

end Annotator

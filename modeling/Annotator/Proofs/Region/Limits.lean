import Annotator.Proofs.Output.Positions
import Annotator.Proofs.Region.Metadata
import Mathlib.Order.Defs.LinearOrder

/-!
Limits cut a tooltip in front of a character and a menu in front of an entry. Cutting twice is
cutting once by the smaller limits.
-/

namespace Annotator

namespace Text

/-- The byte offset at which the character of a number begins, if there is such a character. -/
def offset? : Nat → List Char → Option Nat
  -- Characters are numbered from zero, and each of them takes up its own bytes.
  | _, [] => none
  | 0, _ :: _ => some 0
  | count + 1, c :: rest => (offset? count rest).map (c.utf8Size + ·)

/-- A character is there exactly if the text is longer, and its offset is the size of the front. -/
theorem offset?_eq_some_iff {count offset : Nat} {text : List Char} :
    offset? count text = some offset ↔
      count < text.length ∧ offset = byteLength (text.take count) := by
  -- Induction on the count along the text: each character counted adds its bytes.
  induction count, text using offset?.induct generalizing offset with
  | case1 => simp [offset?]
  | case2 c rest => simp [offset?, eq_comm]
  | case3 count c rest ih =>
    rw [offset?, Option.map_eq_some_iff, List.take_succ_cons, byteLength_cons, List.length_cons]
    constructor
    · rintro ⟨offset, found, rfl⟩
      obtain ⟨within, rfl⟩ := ih.mp found
      exact ⟨by omega, rfl⟩
    · rintro ⟨within, rfl⟩
      exact ⟨_, ih.mpr ⟨by omega, rfl⟩, rfl⟩

/-- The bytes of a front of a text are the bytes in front of its end. -/
theorem bytes_front (front back : List Char) :
    bytes (String.ofList front) =
      (bytes (String.ofList (front ++ back))).take (byteLength front) := by
  -- The encoding of the front fills as many bytes as the front is long.
  have filled : (bytes (String.ofList front)).length = byteLength front :=
    (length_bytes _).trans (size_ofList front)
  rw [bytes_ofList] at filled
  rw [bytes_ofList, bytes_ofList, List.flatMap_append, List.take_left' filled]

/-- A text is shortened to a number of characters by cutting its bytes in front of the next one. -/
structure Shortens (count : Nat) (text kept : String) : Prop where
  /-- What is kept is the front of the text, made of whole characters. -/
  front : ∃ gone, text = kept ++ gone
  /-- As many characters are kept as there are and as are allowed. -/
  length : kept.length = min text.length count
  /-- If there is a next character, the cut lies at the byte at which it begins. -/
  cut : ∀ offset, offset? count text.toList = some offset →
    bytes kept = (bytes text).take offset
  /-- If there is none, nothing is cut. -/
  whole : offset? count text.toList = none → kept = text

/-- Taking characters from the front shortens a text. -/
theorem shortens_take (count : Nat) (text : String) :
    Shortens count text (String.ofList (text.toList.take count)) := by
  -- The characters that are kept and those that are dropped make up the text.
  have split : text = String.ofList (text.toList.take count ++ text.toList.drop count) := by
    rw [List.take_append_drop, String.ofList_toList]
  constructor
  · exact ⟨String.ofList (text.toList.drop count), by rw [← String.ofList_append, ← split]⟩
  · rw [String.length_ofList, List.length_take, String.length_toList, Nat.min_comm]
  · intro offset found
    obtain ⟨-, rfl⟩ := offset?_eq_some_iff.mp found
    have front := bytes_front (text.toList.take count) (text.toList.drop count)
    rwa [← split] at front
  · intro missing
    -- Every character has a number below the length of the text.
    have short : text.toList.length ≤ count := by
      by_contra longer
      have found := offset?_eq_some_iff.mpr ⟨Nat.lt_of_not_le longer, rfl⟩
      rw [missing] at found
      cases found
    rw [List.take_of_length_le short, String.ofList_toList]

end Text

namespace Limits

/-- Limits are compared one by one. -/
instance : Min Limits where
  min one other :=
    { tooltipChars := min one.tooltipChars other.tooltipChars
      menuEntries := min one.menuEntries other.menuEntries }

/-- The smaller of two limits cuts tooltips to the smaller length. -/
@[simp] theorem tooltipChars_min (one other : Limits) :
    (min one other).tooltipChars = min one.tooltipChars other.tooltipChars :=
  -- The limits are compared part by part.
  rfl

/-- The smaller of two limits cuts menus to the smaller length. -/
@[simp] theorem menuEntries_min (one other : Limits) :
    (min one other).menuEntries = min one.menuEntries other.menuEntries :=
  -- The limits are compared part by part.
  rfl

/-- It does not matter which of two limits comes first. -/
theorem min_swap (one other : Limits) : min one other = min other one := by
  -- The limits are compared part by part.
  have tooltip := Nat.min_comm one.tooltipChars other.tooltipChars
  have menu := Nat.min_comm one.menuEntries other.menuEntries
  exact congrArg₂ Limits.mk tooltip menu

/-- Limits are no smaller than themselves. -/
theorem min_same (limits : Limits) : min limits limits = limits :=
  -- The limits are compared part by part.
  congrArg₂ Limits.mk (Nat.min_self _) (Nat.min_self _)

end Limits

namespace Metadata

variable {metadata : Metadata}

/-- A tooltip under limits is a shortened one. -/
theorem shortens_tooltip {limits : Limits} {text : String} (shown : metadata.tooltip = some text) :
    ∃ kept, (metadata.limited limits).tooltip = some kept ∧
      Text.Shortens limits.tooltipChars text kept :=
  -- What is kept of the tooltip are its first characters.
  ⟨_, by rw [limited, shown, Option.map_some], Text.shortens_take _ _⟩

/-- A menu under limits is the front of the menu. -/
theorem front_menu (limits : Limits) (metadata : Metadata) :
    ∃ gone, metadata.menu = (metadata.limited limits).menu ++ gone ∧
      (metadata.limited limits).menu.length = min metadata.menu.length limits.menuEntries :=
  -- What is gone is what the cut drops from the menu.
  ⟨metadata.menu.drop limits.menuEntries, (List.take_append_drop _ _).symm,
    List.length_take.trans (Nat.min_comm _ _)⟩

/-- Two limits in a row are the smaller ones of both. -/
theorem limited_limited (one other : Limits) (metadata : Metadata) :
    (metadata.limited one).limited other = metadata.limited (min one other) := by
  -- Cutting twice keeps as much as the smaller of the cuts.
  have tooltip : ∀ text : String,
      (String.ofList (text.toList.take one.tooltipChars)).toList.take other.tooltipChars =
        text.toList.take (min one other).tooltipChars := fun text => by
    rw [String.toList_ofList, List.take_take, Limits.tooltipChars_min, Nat.min_comm]
  have menu : (metadata.menu.take one.menuEntries).take other.menuEntries =
      metadata.menu.take (min one other).menuEntries := by
    rw [List.take_take, Limits.menuEntries_min, Nat.min_comm]
  simp only [limited, Option.map_map, Function.comp_def, tooltip, menu]

/-- Valid metadata stays valid under limits. -/
theorem validate_limited (limits : Limits) (valid : metadata.validate = .ok ()) :
    (metadata.limited limits).validate = .ok () :=
  -- Every action that is left was there before.
  validate_eq_ok_iff.mpr fun action member =>
    validate_eq_ok_iff.mp valid action (mem_actions_of_limited member)

end Metadata

/--
Limits shorten the tooltip to whole characters and the menu to whole entries, and leave all else.
Several limits act like the smallest of them in any order, and valid metadata stays valid.
-/
theorem limits_cut_exactly (metadata : Metadata) (limits : Limits) :
    let kept := metadata.limited limits
    (metadata.tooltip = none → kept.tooltip = none) ∧
    (∀ text, metadata.tooltip = some text →
      ∃ front, kept.tooltip = some front ∧ Text.Shortens limits.tooltipChars text front) ∧
    (∃ gone, metadata.menu = kept.menu ++ gone ∧
      kept.menu.length = min metadata.menu.length limits.menuEntries) ∧
    kept.icon = metadata.icon ∧ kept.primaryAction = metadata.primaryAction ∧
    kept.drag = metadata.drag ∧
    (∀ other : Limits, kept.limited other = metadata.limited (min limits other) ∧
      kept.limited other = (metadata.limited other).limited limits) ∧
    kept.limited limits = kept ∧
    (metadata.validate = .ok () → kept.validate = .ok ()) := by
  -- The parts that limits do not touch are kept by definition, and the cuts compose to one.
  intro kept
  refine ⟨fun missing => ?_, fun text shown => Metadata.shortens_tooltip shown,
    metadata.front_menu limits, rfl, rfl, rfl, fun other => ⟨?_, ?_⟩, ?_,
    Metadata.validate_limited limits⟩
  · exact Option.map_eq_none_iff.mpr missing
  · exact Metadata.limited_limited limits other metadata
  · rw [Metadata.limited_limited, Metadata.limited_limited, Limits.min_swap]
  · rw [Metadata.limited_limited, Limits.min_same]

/-- A tooltip of just as many characters as allowed is kept, and a longer one loses whole ones. -/
example :
    let metadata : Metadata := { tooltip := some "é€𝄞", menu := [.separator, .confirm "Sure?"] }
    (metadata.limited ⟨3, 2⟩ = metadata) ∧
      (metadata.limited ⟨2, 0⟩).tooltip = some "é€" ∧ (metadata.limited ⟨2, 0⟩).menu = [] := by
  decide

end Annotator

import Annotator.Action.Basic

/-! A menu lists labelled actions, with separators, confirmations and borrowed menus. -/

namespace Annotator

/-- One entry of a context menu. -/
inductive MenuEntry
  /-- An action with its label, and with an icon and a status tip if it has them. -/
  | action (chosen : Action) (label : String) (icon statusTip : Option String)
  /-- A line between two groups of entries. -/
  | separator
  /-- A question that must be answered before the entry in front of it runs. -/
  | confirm (prompt : String)
  /-- The host's own menu for an address, shown under a label. -/
  | mergeSubmenu (uri label : String)
  deriving DecidableEq, Repr, Inhabited

namespace MenuEntry

/-- A text that is present unless it is empty. -/
def nonemptyText (text : String) : Option String :=
  -- The empty text stands for no text.
  if text.isEmpty then none else some text

/-- An action entry, where an empty icon or tip stands for none. -/
def ofAction (chosen : Action) (label icon statusTip : String) : MenuEntry :=
  -- Both decorations are optional.
  .action chosen label (nonemptyText icon) (nonemptyText statusTip)

/-- The code by which hosts tell the kinds of entries apart. -/
def kind : MenuEntry → Nat
  -- The codes are part of the host's interface.
  | .separator => 0
  | .action .. => 1
  | .confirm _ => 2
  | .mergeSubmenu .. => 5

/-- The label of an entry that has one. -/
def label? : MenuEntry → Option String
  -- Actions and borrowed menus are labelled.
  | .action _ label _ _ => some label
  | .mergeSubmenu _ label => some label
  | _ => none

/-- The action of an entry that runs one. -/
def action? : MenuEntry → Option Action
  -- Only action entries carry an action.
  | .action chosen .. => some chosen
  | _ => none

end MenuEntry

end Annotator

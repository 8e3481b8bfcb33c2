import Annotator.Region.Drag
import Annotator.Region.Limits
import Annotator.Region.Menu

/-! Metadata is what a region offers: an icon, a tooltip, an action, drag payloads and a menu. -/

namespace Annotator

/-- What a region shows and offers. -/
structure Metadata where
  /-- The icon, if there is one. -/
  icon : Option String := none
  /-- The tooltip, if there is one. -/
  tooltip : Option String := none
  /-- The action run when the region is activated. -/
  primaryAction : Option Action := none
  /-- The payloads offered to a drop target. -/
  drag : DragPayloads := {}
  /-- The entries of the context menu. -/
  menu : List MenuEntry := []
  deriving DecidableEq, Inhabited

namespace Metadata

/-- The labels of the action entries, in menu order. -/
def menuLabels (metadata : Metadata) : List String :=
  -- Borrowed menus do not count.
  metadata.menu.filterMap fun entry =>
    match entry with
    | .action _ label _ _ => some label
    | _ => none

/-- Every action a region can run, the primary one first. -/
def actions (metadata : Metadata) : List Action :=
  -- The menu follows in its own order.
  metadata.primaryAction.toList ++ metadata.menu.filterMap MenuEntry.action?

/-- Metadata is valid when every action in it is. -/
def validate (metadata : Metadata) : Except ActionError Unit :=
  -- The first invalid action is reported.
  metadata.actions.forM Action.validate

/-- Limits keep the front of the tooltip and the front of the menu. -/
def limited (limits : Limits) (metadata : Metadata) : Metadata :=
  -- Tooltips are cut between characters.
  { metadata with
    tooltip := metadata.tooltip.map fun text =>
      String.ofList (text.toList.take limits.tooltipChars)
    menu := metadata.menu.take limits.menuEntries }

end Metadata

end Annotator

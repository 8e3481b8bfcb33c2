import Annotator.Region.Basic
import Annotator.Report.Json

/-! Regions are reported as JSON objects that leave out what is absent. -/

namespace Annotator

namespace Argument

/-- The JSON form of an argument. -/
def json : Argument → JsonValue
  -- A list argument is an array.
  | .value text => .text text
  | .list items => .array (items.map .text)

end Argument

namespace Action

/-- The JSON form of an action. -/
def json (action : Action) : JsonValue :=
  -- The name comes before the arguments.
  .object [("name", .text action.name), ("args", .array (action.args.map Argument.json))]

end Action

namespace MenuEntry

/-- The JSON form of a menu entry. -/
def json : MenuEntry → JsonValue
  -- The type comes first.
  | .action chosen label icon statusTip =>
    .object ([("type", .text "action"), ("action", chosen.json), ("label", .text label)] ++
      JsonValue.optional "icon" (icon.map .text) ++
      JsonValue.optional "status_tip" (statusTip.map .text))
  | .separator => .object [("type", .text "separator")]
  | .confirm prompt => .object [("type", .text "confirm"), ("prompt", .text prompt)]
  | .mergeSubmenu uri label =>
    .object [("type", .text "merge_submenu"), ("uri", .text uri), ("label", .text label)]

end MenuEntry

namespace DragPayloads

/-- The JSON form of drag payloads, if there are any. -/
def json? (payloads : DragPayloads) : Option JsonValue :=
  -- Media types are the names of the members.
  if payloads.pairs.isEmpty then none
  else some (.object (payloads.pairs.map fun pair => (pair.1, .text pair.2)))

end DragPayloads

namespace Metadata

/-- The JSON form of metadata. -/
def json (metadata : Metadata) : JsonValue :=
  -- Absent and empty parts are left out.
  .object
    (JsonValue.optional "icon" (metadata.icon.map .text) ++
      JsonValue.optional "tooltip" (metadata.tooltip.map .text) ++
      JsonValue.optional "primary_action" (metadata.primaryAction.map Action.json) ++
      JsonValue.optional "drag" metadata.drag.json? ++
      JsonValue.optional "menu"
        (if metadata.menu.isEmpty then none
          else some (.array (metadata.menu.map MenuEntry.json))))

end Metadata

namespace Position

/-- The JSON form of a position. -/
def json (position : Position) : JsonValue :=
  -- The row comes first.
  .object [("row", .number position.row), ("offset", .number position.offset)]

end Position

namespace Region

/-- The JSON form of a region. -/
def json (region : Region) : JsonValue :=
  -- The members stand in a fixed order.
  .object
    [("id", .number region.id.number), ("invocation", .number region.invocation.number),
      ("matcher", .text region.matcher), ("start", region.start.json),
      ("end", region.stop.json), ("metadata", region.metadata.json)]

end Region

end Annotator

import Annotator.Action.Wire
import Annotator.Registry
import Annotator.Text.Column

/-! Reports for people list regions and factories, one a line, in columns. -/

namespace Annotator

/-- Lines joined without white space at the end of the last one. -/
def reportText (lines : List String) : String :=
  -- Every line is closed before the end is trimmed.
  String.ofList (Text.trimEnd (lines.flatMap fun line => line.toList ++ ['\n']))

namespace Position

/-- A position is shown as its row and offset. -/
def label (position : Position) : String :=
  -- A colon separates the two.
  toString position.row ++ ":" ++ toString position.offset

end Position

namespace Region

/-- The wire form of a region's action, shown with spaces between list items. -/
def actionColumn (region : Region) : String :=
  -- A region without an action that can be sent shows nothing.
  match region.metadata.primaryAction.map Action.encode with
  | some (.ok wire) => wire.map fun c => if c == itemDelimiter then ' ' else c
  | _ => ""

/-- The line that reports a region. -/
def line (region : Region) : String :=
  -- The columns are number, span, matcher, icon and action.
  "#" ++ Text.padRight 4 (toString region.id.number) ++ " " ++ region.start.label ++ "-" ++
    region.stop.label ++ "  " ++ Text.padRight 24 region.matcher ++ " " ++
    Text.padRight 10 (region.metadata.icon.getD "-") ++ " " ++ region.actionColumn

end Region

/-- The report on regions. -/
def regionReport (regions : List Region) : String :=
  -- It says so when there are none.
  if regions.isEmpty then "no regions" else reportText (regions.map Region.line)

namespace Factory

/-- The line that reports a factory. -/
def line (factory : Factory) : String :=
  -- The columns are name, scheduling and finish policy.
  Text.padRight 26 factory.name ++ " " ++ Text.padRight 5 (if factory.fast then "fast" else "") ++
    " " ++ factory.finishPolicy.label

end Factory

/-- The report on the factories of a registry. -/
def factoryReport (registry : Registry) : String :=
  -- The order of registration is kept.
  reportText (registry.factories.map Factory.line)

end Annotator

import Annotator.Action.Basic
import Annotator.Settings.Basic

/-! Settings are valid when limits leave something to show and every text is fit for its use. -/

namespace Annotator

/-- What makes settings invalid. -/
inductive InvalidSettings
  /-- No character of a tooltip would be kept. -/
  | noTooltip
  /-- No entry of a menu would be kept. -/
  | noMenu
  /-- An alias of the named matcher is blank or contains a reserved character. -/
  | badAlias (matcher text : String)
  /-- The launcher contains a reserved character. -/
  | badLauncher (text : String)
  /-- A command word is blank. -/
  | blankCommand
  deriving DecidableEq, Repr

namespace InvalidSettings

/-- The wording of what is invalid. -/
def message : InvalidSettings → String
  -- Settings are named by their path in the document.
  | .noTooltip => "limits.tooltip_max_chars must be > 0"
  | .noMenu => "limits.menu_max_entries must be > 0"
  | .badAlias matcher text => "matchers." ++ matcher ++ ".aliases: invalid alias " ++ quoted text
  | .badLauncher text => "make.editor_launcher contains a reserved delimiter: " ++ quoted text
  | .blankCommand => "make.commands must not contain empty entries"

end InvalidSettings

namespace MatcherSettings

/-- An alias that cannot be used. -/
def badAlias? (settings : MatcherSettings) : Option String :=
  -- The first one is reported.
  settings.aliases.find? fun text => isBlankText text || hasReserved text

end MatcherSettings

namespace MatcherTable

/-- The first matcher with an alias that cannot be used. -/
def badAlias? (table : MatcherTable) : Option InvalidSettings :=
  -- Matchers are checked in the order of the table.
  table.entries.findSome? fun entry => entry.2.badAlias?.map (.badAlias entry.1)

end MatcherTable

namespace Settings

/-- Settings are checked from the limits to the build matcher, and the first defect is reported. -/
def validate (settings : Settings) : Except InvalidSettings Unit :=
  -- Each kind of defect is decided on its own.
  if settings.limits.tooltipChars = 0 then .error .noTooltip
  else if settings.limits.menuEntries = 0 then .error .noMenu
  else match settings.matchers.badAlias? with
    | some defect => .error defect
    | none =>
      if hasReserved settings.make.editorLauncher then
        .error (.badLauncher settings.make.editorLauncher)
      else if settings.make.commands.any isBlankText then .error .blankCommand
      else .ok ()

end Settings

end Annotator

import Annotator.CommandLine.Work
import Annotator.Settings.LogLevel
import Annotator.Text.Blank
import Annotator.Text.Number

/-! The environment of a command says where its settings are kept and which notices are shown. -/

namespace Annotator

/-- What a command finds out about where it runs. -/
structure Environment where
  /-- The home directory, if there is one. -/
  home : Option String
  /-- The log level asked for by name. -/
  namedLevel : Option String := none
  /-- The log level asked for by number. -/
  numberedLevel : Option String := none
  /-- The name of this machine. -/
  hostName : String := "localhost"

namespace Environment

/-- The path of the settings when no other is given. -/
def settingsPath (environment : Environment) : String :=
  -- Without a home directory it is in the working directory.
  match environment.home with
  | none => Path.within "." "config.yaml"
  | some home =>
    Path.within (Path.within (Path.within home ".config") "par-annotate") "config.yaml"

/-- The log level of a number, where other texts stand for none. -/
def levelOfNumber (text : String) : LogLevel :=
  -- Numbers have at most eight bits, and there is none for warnings alone.
  match Text.unsigned? 10 255 (Text.trim text.toList) with
  | some 1 => .error
  | some 2 => .info
  | some 3 => .debug
  | some 4 => .trace
  | _ => .off

/-- The log level in force, given the one on the command line. -/
def logLevel (environment : Environment) (given : Option LogLevel) : LogLevel :=
  -- The command line comes first, then the name, then the number.
  let named := environment.namedLevel.bind fun text => LogLevel.ofAnyCase? (trimmed text)
  ((given <|> named) <|> environment.numberedLevel.map levelOfNumber).getD .off

/-- Notices up to this level are shown on standard error. -/
def shownLevel (environment : Environment) (given : Option LogLevel) : LogLevel :=
  -- They are shown only if a level is asked for by name, even by one that does not exist.
  if environment.namedLevel.isSome then environment.logLevel given else .off

end Environment

namespace Notice

/-- The line that shows a notice. -/
def line (notice : Notice) : String :=
  -- Severity and origin come in brackets.
  "[" ++ notice.severity.label ++ "] [" ++ notice.origin ++ "] " ++ notice.message ++ "\n"

end Notice

namespace Work

/-- The notices of a journal are shown up to a level. -/
def tell (level : LogLevel) (journal : Journal) : Work Unit :=
  -- Less severe ones are passed over.
  complainEach ((journal.notices.filter fun notice => level.admits notice.severity).map Notice.line)

/-- One notice is shown if the level admits it. -/
def notify (level : LogLevel) (severity : Severity) (origin message : String) : Work Unit :=
  -- It forms a journal of its own.
  tell level [.noticed { severity, origin, message }]

end Work

end Annotator

import Annotator.Settings.LogLevel
import Annotator.Text.Number

/-! Parameters are given on the command line as a name and a value, each at most once. -/

namespace Annotator

/-- How the regions of a replay are shown. -/
inductive ReportFormat
  /-- As JSON. -/
  | json
  /-- As a table. -/
  | text
  deriving DecidableEq, Repr

namespace ReportFormat

/-- The name of a format on the command line. -/
def name : ReportFormat → String
  -- Names are lower case.
  | .json => "json"
  | .text => "text"

/-- The format of a name, compared exactly. -/
def ofName? (name : String) : Option ReportFormat :=
  -- Names are distinct.
  [ReportFormat.json, .text].find? (·.name == name)

end ReportFormat

/-- What can be asked for on the command line. -/
inductive Verb
  /-- To replay captured output. -/
  | replay
  /-- To list the built-in matchers. -/
  | list
  /-- To show where the settings are kept. -/
  | configPath
  deriving DecidableEq, Repr

namespace Verb

/-- The word for a verb. -/
def word : Verb → String
  -- Words are lower case.
  | .replay => "replay"
  | .list => "list"
  | .configPath => "config-path"

/-- The verb of a word, compared exactly. -/
def ofWord? (word : String) : Option Verb :=
  -- Words are distinct.
  [Verb.replay, .list, .configPath].find? (·.word == word)

end Verb

/-- What takes a value on the command line. -/
inductive Parameter
  /-- How much is logged. -/
  | logLevel
  /-- The file with the settings. -/
  | config
  /-- The command that was run. -/
  | command
  /-- Where it was run. -/
  | workingDir
  /-- Its exit code. -/
  | exitCode
  /-- The server named in actions. -/
  | server
  /-- The terminal named in actions. -/
  | terminal
  /-- The host named in links to files. -/
  | host
  /-- The file with the captured output. -/
  | input
  /-- How regions are shown. -/
  | format
  deriving DecidableEq, Repr

namespace Parameter

/-- The name of a parameter, without the dashes in front of it. -/
def name : Parameter → String
  -- Words within a name are joined by dashes.
  | .logLevel => "log-level"
  | .config => "config"
  | .command => "command"
  | .workingDir => "cwd"
  | .exitCode => "exit-code"
  | .server => "server"
  | .terminal => "terminal"
  | .host => "host"
  | .input => "input"
  | .format => "format"

/-- The parameters that may be given before a verb, or behind a given one. -/
def allowed : Option Verb → List Parameter
  -- Those of every verb may be given on either side of it.
  | some .replay =>
    [.logLevel, .config, .command, .workingDir, .exitCode, .server, .terminal, .host, .input,
      .format]
  | _ => [.logLevel, .config]

/-- The parameter of a name, where it may be given. -/
def ofName? (verb : Option Verb) (name : String) : Option Parameter :=
  -- Names are compared exactly.
  (allowed verb).find? (·.name == name)

end Parameter

/-- Why a command line is not understood. -/
inductive UsageError
  /-- A value is missing. -/
  | missingValue (parameter : Parameter)
  /-- A parameter is given twice. -/
  | repeated (parameter : Parameter)
  /-- A value is not one of those that a parameter takes. -/
  | invalidValue (parameter : Parameter) (value : String)
  /-- An argument has no meaning where it stands. -/
  | unexpected (argument : String)
  /-- No verb is given. -/
  | missingVerb
  /-- A parameter that must be given is not. -/
  | missingParameter (parameter : Parameter)
  deriving DecidableEq, Repr

namespace UsageError

/-- The wording of a usage error. -/
def message : UsageError → String
  -- Parameters are shown with the dashes in front of their names.
  | .missingValue parameter => "a value is required for --" ++ parameter.name
  | .repeated parameter => "--" ++ parameter.name ++ " cannot be used more than once"
  | .invalidValue parameter value => "invalid value '" ++ value ++ "' for --" ++ parameter.name
  | .unexpected argument => "unexpected argument '" ++ argument ++ "'"
  | .missingVerb => "a command is required"
  | .missingParameter parameter => "--" ++ parameter.name ++ " is required"

end UsageError

/-- Exit codes have thirty-two bits. -/
def exitCode? (text : String) : Option Int :=
  -- Either sign may be written.
  Text.signed? 10 (-2147483648) 2147483647 text.toList

/-- A path is never empty. -/
def path? (text : String) : Option String :=
  -- Any other text is taken as it is.
  if text.isEmpty then none else some text

/-- The values given so far on one side of the verb. -/
structure Given where
  /-- How much is logged. -/
  logLevel : Option LogLevel := none
  /-- The file with the settings. -/
  config : Option String := none
  /-- The command that was run. -/
  command : Option String := none
  /-- Where it was run. -/
  workingDir : Option String := none
  /-- Its exit code. -/
  exitCode : Option Int := none
  /-- The server named in actions. -/
  server : Option String := none
  /-- The terminal named in actions. -/
  terminal : Option String := none
  /-- The host named in links to files. -/
  host : Option String := none
  /-- The file with the captured output. -/
  input : Option String := none
  /-- How regions are shown. -/
  format : Option ReportFormat := none

namespace Given

/-- A value read from a text goes where no value was given before. -/
def fill {α : Type} (parameter : Parameter) (text : String) (slot read : Option α) :
    Except UsageError (Option α) :=
  -- A second value is refused whether or not it can be read.
  if slot.isSome then .error (.repeated parameter)
  else
    match read with
    | some value => .ok (some value)
    | none => .error (.invalidValue parameter text)

/-- A further parameter is given with the text of its value. -/
def assign (given : Given) (parameter : Parameter) (text : String) : Except UsageError Given := do
  -- Every parameter reads its value in its own way.
  match parameter with
  | .logLevel =>
    return { given with logLevel := ← fill parameter text given.logLevel (LogLevel.ofName? text) }
  | .config => return { given with config := ← fill parameter text given.config (path? text) }
  | .command => return { given with command := ← fill parameter text given.command (some text) }
  | .workingDir =>
    return { given with workingDir := ← fill parameter text given.workingDir (some text) }
  | .exitCode =>
    return { given with exitCode := ← fill parameter text given.exitCode (exitCode? text) }
  | .server => return { given with server := ← fill parameter text given.server (some text) }
  | .terminal =>
    return { given with terminal := ← fill parameter text given.terminal (some text) }
  | .host => return { given with host := ← fill parameter text given.host (some text) }
  | .input => return { given with input := ← fill parameter text given.input (path? text) }
  | .format =>
    return { given with format := ← fill parameter text given.format (ReportFormat.ofName? text) }

end Given

end Annotator

import Annotator.CommandLine.Parameter

/-! A request is what the arguments of the command line ask for. -/

namespace Annotator

/-- What is replayed, and how its regions are shown. -/
structure ReplayOptions where
  /-- The command that was run. -/
  command : String
  /-- Where it was run. -/
  workingDir : String := ""
  /-- Its exit code. -/
  exitCode : Int := 0
  /-- The server named in actions. -/
  server : String := "local"
  /-- The terminal named in actions. -/
  terminal : String := ""
  /-- The host named in links to files, if not this one. -/
  host : Option String := none
  /-- The file with the captured output, if not standard input. -/
  input : Option String := none
  /-- How regions are shown. -/
  format : ReportFormat := .text
  deriving DecidableEq, Repr

/-- What is done with the built-in matchers. -/
inductive Task
  /-- Captured output is replayed. -/
  | replay (options : ReplayOptions)
  /-- The built-in matchers are listed. -/
  | list
  deriving DecidableEq, Repr

/-- What the command line asks for. -/
inductive Request
  /-- An explanation of the command line. -/
  | help
  /-- The version of the program. -/
  | version
  /-- The path of the settings, given or not. -/
  | showPath (config : Option String)
  /-- A task, with the log level and the file with the settings if they are given. -/
  | perform (task : Task) (logLevel : Option LogLevel) (config : Option String)
  deriving DecidableEq, Repr

/-- How an argument is meant, judged by its dashes. -/
inductive Word
  /-- Two dashes alone end the parameters. -/
  | terminator
  /-- Two dashes begin a name, which may have a value attached to it. -/
  | long (name : String) (value : Option String)
  /-- One dash begins a run of letters. -/
  | short (first : Char)
  /-- Any other argument stands for itself. -/
  | plain
  deriving DecidableEq, Repr

namespace Word

/-- An attached value follows the first equals sign. -/
def ofLong (characters : List Char) : Word :=
  -- The value may be empty and may contain further equals signs.
  let name := characters.takeWhile (· != '=')
  match characters.drop name.length with
  | [] => .long (String.ofList name) none
  | _ :: value => .long (String.ofList name) (some (String.ofList value))

/-- How an argument is meant. -/
def ofArgument (argument : String) : Word :=
  -- One dash alone has no special meaning.
  match argument.toList with
  | ['-', '-'] => .terminator
  | '-' :: '-' :: characters => ofLong characters
  | '-' :: first :: _ => .short first
  | _ => .plain

end Word

/-- The arguments read so far on one side of the verb. -/
structure Side where
  /-- The values that are settled. -/
  given : Given := {}
  /-- The last parameter, with its value once that is read. -/
  pending : Option (Parameter × Option String) := none

namespace Side

/-- The last parameter is settled before the next one is taken up. -/
def settle (side : Side) : Except UsageError Given :=
  -- It must have its value by now.
  match side.pending with
  | none => .ok side.given
  | some (parameter, none) => .error (.missingValue parameter)
  | some (parameter, some text) => side.given.assign parameter text

/-- The parameter whose value comes next. -/
def awaited? (side : Side) : Option Parameter :=
  -- A parameter that has its value awaits nothing.
  match side.pending with
  | some (parameter, none) => some parameter
  | _ => none

/-- A parameter is taken up, with the value attached to it if there is one. -/
def take (side : Side) (parameter : Parameter) (value : Option String) :
    Except UsageError Side := do
  -- An attached value is settled at once.
  let given ← side.settle
  match value with
  | some text => return { given := ← given.assign parameter text }
  | none => return { given, pending := some (parameter, none) }

end Side

/-- The arguments read so far. -/
structure Reading where
  /-- The verb, once it is read. -/
  verb : Option Verb := none
  /-- The side before the verb, once that is read. -/
  before : Side := {}
  /-- The side where arguments are being read. -/
  side : Side := {}

namespace Request

/-- The options of a replay are the parameters behind its verb. -/
def replayOptions (given : Given) : Except UsageError ReplayOptions :=
  -- All but the command have defaults.
  match given.command with
  | none => .error (.missingParameter .command)
  | some command =>
    .ok
      { command
        workingDir := given.workingDir.getD ""
        exitCode := given.exitCode.getD 0
        server := given.server.getD "local"
        terminal := given.terminal.getD ""
        host := given.host
        input := given.input
        format := given.format.getD .text }

/-- The request of all arguments. -/
def ofReading (reading : Reading) : Except UsageError Request := do
  -- A value given behind the verb wins over one given before it.
  let given ← reading.side.settle
  let before ← reading.before.settle
  let logLevel := given.logLevel <|> before.logLevel
  let config := given.config <|> before.config
  match reading.verb with
  | none => .error .missingVerb
  | some .replay => return .perform (.replay (← replayOptions given)) logLevel config
  | some .list => return .perform .list logLevel config
  | some .configPath => return .showPath config

/-- A plain word that is no value is a verb, or asks for help about one. -/
def isTopic (word : String) : Bool :=
  -- Help explains itself too.
  word == "help" || (Verb.ofWord? word).isSome

/-- The arguments behind the word for help name at most one topic. -/
def ofTopics : List String → Except UsageError Request
  -- Whatever was given before does not matter.
  | [] => .ok .help
  | [topic] => if isTopic topic then .ok .help else .error (.unexpected topic)
  | _ :: topic :: _ => .error (.unexpected topic)

/-- A request for information is granted when the last parameter is settled. -/
def inform (side : Side) (request : Request) : Except UsageError Request :=
  -- Parameters that would follow are not looked at.
  side.settle.map fun _ => request

/-- The arguments still to be read complete a reading. -/
def complete (reading : Reading) : List String → Except UsageError Request
  -- Each argument is a value that was awaited, or judged by its dashes.
  | [] => ofReading reading
  | argument :: rest =>
    let side := reading.side
    let valued (parameter : Parameter) : Reading :=
      { reading with side := { side with pending := some (parameter, some argument) } }
    match Word.ofArgument argument with
    | .terminator =>
      match rest with
      | [] => ofReading reading
      | extra :: _ => .error (.unexpected extra)
    | .long name value =>
      if name = "help" ∧ value = none then inform side .help
      else if name = "version" ∧ value = none ∧ reading.verb = none then inform side .version
      else
        match Parameter.ofName? reading.verb name with
        | none => .error (.unexpected argument)
        | some parameter =>
          match side.take parameter value with
          | .error error => .error error
          | .ok side => complete { reading with side } rest
    | .short first =>
      if side.awaited? = some .exitCode ∧ first.isDigit then complete (valued .exitCode) rest
      else if first = 'h' then inform side .help
      else if first = 'V' ∧ reading.verb = none then inform side .version
      else .error (.unexpected argument)
    | .plain =>
      match side.awaited? with
      | some parameter => complete (valued parameter) rest
      | none =>
        match reading.verb, Verb.ofWord? argument with
        | none, some verb => complete { verb := some verb, before := side } rest
        | none, none => if argument = "help" then ofTopics rest else .error (.unexpected argument)
        | some _, _ => .error (.unexpected argument)

/-- The request of the arguments of the command line. -/
def ofArguments (arguments : List String) : Except UsageError Request :=
  -- Nothing is read at first.
  complete {} arguments

end Request

end Annotator

import Annotator.CommandLine.Environment
import Annotator.CommandLine.Request
import Annotator.Replay
import Annotator.Report.RegionJson
import Annotator.Report.Table
import Annotator.Settings.Load

/-! A run carries a request out, from finding the settings to printing the result. -/

namespace Annotator

/-- What is told about a command that fails. -/
structure Failure where
  /-- What failed. -/
  message : String
  /-- Why it failed, if there is more to say. -/
  cause : Option String := none
  deriving DecidableEq, Repr

namespace Failure

/-- A failure to load settings. -/
def ofSettings (error : SettingsError) : Failure where
  message := error.message
  cause := error.cause?

/-- A failure to replay. -/
def ofReplay (error : ReplayError) : Failure where
  message := error.message
  cause := error.cause?

/-- What failed and why, on one line. -/
def chain (failure : Failure) : String :=
  -- A colon leads to the cause.
  match failure.cause with
  | none => failure.message
  | some cause => failure.message ++ ": " ++ cause

/-- The final words about a failure. -/
def report (failure : Failure) : String :=
  -- The cause stands in a paragraph of its own.
  match failure.cause with
  | none => "Error: " ++ failure.message ++ "\n"
  | some cause => "Error: " ++ failure.message ++ "\n\nCaused by:\n    " ++ cause ++ "\n"

end Failure

namespace Run

/-- Notices about settings come from here. -/
def settingsOrigin : String :=
  -- The origin is part of the output.
  "par_annotate_config::persistence"

/-- The name and version of the program. -/
def version : String :=
  -- The version is part of the output.
  "0.1.0"

/-- How the command line is used. -/
def help : String :=
  -- Commands come before their parameters.
  "Tag command output with actionable regions\n\n" ++
  "Usage: par-annotate [OPTIONS] <COMMAND>\n\n" ++
  "Commands:\n" ++
  "  replay       Run captured command output through the built-in matchers\n" ++
  "  list         List the registered matchers\n" ++
  "  config-path  Print the configuration file path\n" ++
  "  help         Print this message\n\n" ++
  "Options:\n" ++
  "      --log-level <LEVEL>  off, error, warn, info, debug or trace\n" ++
  "      --config <PATH>      Configuration file\n" ++
  "  -h, --help               Print help\n" ++
  "  -V, --version            Print version\n\n" ++
  "Options of replay:\n" ++
  "      --command <CMD>      Command line the output was produced by\n" ++
  "      --cwd <DIR>          Working directory of the command\n" ++
  "      --exit-code <N>      Exit code of the command\n" ++
  "      --server <ID>        Server identifier embedded in actions\n" ++
  "      --terminal <ID>      Terminal identifier embedded in actions\n" ++
  "      --host <NAME>        Host name for file URIs\n" ++
  "      --input <FILE>       File holding the captured output\n" ++
  "      --format <FORMAT>    json or text\n"

/-- The settings in the file at a path are loaded. -/
def loadFrom (level : LogLevel) (path : String) : Work (Except SettingsError Settings) := do
  -- The attempt is noticed before it can fail.
  Work.notify level .info settingsOrigin ("Loading config from " ++ quoted path)
  let content ← Work.read path .done
  match content with
  | .error error => return .error (.unavailable error.message)
  | .ok bytes => return Settings.ofBytes bytes

/-- Settings are saved in the file at a path. -/
def saveTo (path : String) (settings : Settings) : Work (Except SettingsError Unit) := do
  -- Only the file can be at fault.
  let saved ← Work.save path settings.text .done
  match saved with
  | .error error => return .error (.unavailable error.message)
  | .ok () => return .ok ()

/-- The default settings are saved where none are found. -/
def createDefault (level : LogLevel) (path : String) : Work (Except SettingsError Settings) := do
  -- A failure to save them is a failure to load them.
  Work.notify level .info settingsOrigin
    ("Config file not found, creating default at " ++ quoted path)
  let settings : Settings := {}
  let saved ← saveTo path settings
  match saved with
  | .error failure =>
    Work.notify level .error settingsOrigin ("Failed to save default config: " ++ failure.message)
    return .error failure
  | .ok () =>
    Work.notify level .info settingsOrigin "Default config created successfully"
    return .ok settings

/-- The settings are loaded from a given path or from where they are kept. -/
def load (environment : Environment) (level : LogLevel) (given : Option String) :
    Work (Except SettingsError Settings) := do
  -- Only where they are kept may they be missing.
  match given with
  | some path => loadFrom level path
  | none =>
    let path := environment.settingsPath
    Work.notify level .info settingsOrigin ("Config path: " ++ quoted path)
    let present ← Work.probe path .done
    if present then loadFrom level path else createDefault level path

/-- The captured output to replay, and why reading it broke off. -/
def openInput (options : ReplayOptions) : Work (Except Failure (ByteArray × Option String)) := do
  -- A directory can be opened, but nothing can be read from it.
  match options.input with
  | none =>
    let bytes ← Work.readInput .done
    return .ok (bytes, none)
  | some path =>
    let content ← Work.read path .done
    match content with
    | .ok bytes => return .ok (bytes, none)
    | .error .isDirectory => return .ok (.empty, some FileError.isDirectory.message)
    | .error error =>
      return .error { message := "Failed to open " ++ path, cause := some error.message }

/-- Regions as a replay shows them. -/
def shownRegions (format : ReportFormat) (regions : List Region) : String :=
  -- Both forms show the regions in order.
  match format with
  | .json => (JsonValue.array (regions.map Region.json)).pretty
  | .text => regionReport regions

/-- The captured output of a replay. -/
def capture (environment : Environment) (options : ReplayOptions) (output : ByteArray)
    (breaksOff : Option String) : Capture where
  invocation :=
    { command := options.command
      workingDir := options.workingDir
      server := options.server
      terminal := options.terminal
      host := options.host.getD environment.hostName
      exitCode := none }
  exitCode := options.exitCode
  output := output
  breaksOff := breaksOff

/-- Captured output is replayed in a registry. -/
def replay (environment : Environment) (level : LogLevel) (registry : Registry)
    (settings : Settings) (options : ReplayOptions) : Work (Except Failure String) := do
  -- What happened is shown even if the replay fails.
  match ← openInput options with
  | .error failure => return .error failure
  | .ok (output, breaksOff) =>
    let (result, journal) :=
      Replay.run registry settings (capture environment options output breaksOff)
    Work.tell level journal
    match result with
    | .error error => return .error (.ofReplay error)
    | .ok regions => return .ok (shownRegions options.format regions)

/-- The result of a task under given settings. -/
def result (environment : Environment) (level : LogLevel) (settings : Settings) (task : Task) :
    Work (Except Failure String) := do
  -- The built-in matchers are registered first.
  let (registry, journal) := Registry.builtins settings
  Work.tell level journal
  match task with
  | .list => return .ok (factoryReport registry)
  | .replay options => replay environment level registry settings options

/-- A task is performed and yields the exit code. -/
def perform (environment : Environment) (level : LogLevel) (given : Option String)
    (task : Task) : Work Nat := do
  -- The settings must be found before anything else is done.
  match ← load environment level given with
  | .error error => Work.complain (Failure.ofSettings error).report (.done 1)
  | .ok settings =>
    Work.notify level .info "par_annotate" ("Starting par-annotate " ++ version)
    match ← result environment level settings task with
    | .ok text => Work.print (text ++ "\n") (.done 0)
    | .error failure =>
      Work.complain ("par-annotate: error: " ++ failure.chain ++ "\n")
        (.complain failure.report (.done 1))

/-- A request is carried out and yields the exit code. -/
def answer (environment : Environment) : Request → Work Nat
  -- Only tasks need the settings.
  | .help => .print help (.done 0)
  | .version => .print ("par-annotate " ++ version ++ "\n") (.done 0)
  | .showPath config => .print (config.getD environment.settingsPath ++ "\n") (.done 0)
  | .perform task logLevel config =>
    perform environment (environment.shownLevel logLevel) config task

/-- The arguments of the command line are understood and carried out. -/
def ofArguments (environment : Environment) (arguments : List String) : Work Nat :=
  -- A usage error has an exit code of its own.
  match Request.ofArguments arguments with
  | .error error =>
    .complain ("error: " ++ error.message ++ "\n\nFor more information, try '--help'.\n") (.done 2)
  | .ok request => answer environment request

end Run

end Annotator

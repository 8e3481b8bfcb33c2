/-! An invocation is one run of a command in a terminal, known by the number it was issued. -/

namespace Annotator

/-- The number under which an invocation is tracked. -/
structure InvocationId where
  /-- Numbers are issued from one upwards. -/
  number : Nat
  deriving DecidableEq, Repr, Inhabited

namespace InvocationId

/-- The label that names an invocation in messages. -/
def label (id : InvocationId) : String :=
  -- The number follows a fixed tag.
  "inv#" ++ toString id.number

end InvocationId

/-- One run of a command as the terminal reports it. -/
structure Invocation where
  /-- The command line as typed. -/
  command : String
  /-- The directory it ran in, empty when unknown. -/
  workingDir : String := ""
  /-- The server session it belongs to. -/
  server : String := ""
  /-- The terminal it ran in. -/
  terminal : String := ""
  /-- The name of the machine, used in file addresses. -/
  host : String := ""
  /-- The exit code, once the command has completed. -/
  exitCode : Option Int := none
  deriving DecidableEq, Repr, Inhabited

/-- What a matcher learns about an invocation when it is built. -/
structure Site where
  /-- The command line. -/
  command : String
  /-- The server session. -/
  server : String
  /-- The terminal. -/
  terminal : String
  /-- The name of the machine. -/
  host : String
  /-- The directory against which relative paths resolve, closed by one slash. -/
  baseDir : String
  deriving DecidableEq, Repr, Inhabited

namespace Site

/-- A directory closed by exactly one slash. -/
def closeDir (dir : String) : String :=
  -- Every slash at the end is removed before one is added.
  String.ofList ((dir.toList.reverse.dropWhile (· == '/')).reverse ++ ['/'])

/-- The site of an invocation. -/
def ofInvocation (invocation : Invocation) : Site :=
  -- Only the working directory changes its form.
  { command := invocation.command
    server := invocation.server
    terminal := invocation.terminal
    host := invocation.host
    baseDir := closeDir invocation.workingDir }

/-- A relative path is appended to the base directory, an absolute one stands for itself. -/
def resolvePath (site : Site) (path : String) : String :=
  -- Absolute paths begin with a slash.
  if path.toList.head? == some '/' then path else site.baseDir ++ path

/-- The address of a resolved path on the machine. -/
def fileUri (site : Site) (path : String) : String :=
  -- The host stands between the scheme and the path.
  "file://" ++ site.host ++ path

end Site

end Annotator

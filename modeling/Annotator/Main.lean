import Annotator.CommandLine.Run

/-! The program carries out its command line on the files and streams of this machine. -/

namespace Annotator

/-- The number of an error, which some functions of the system return negated. -/
def errorNumber (number : UInt32) : Nat :=
  -- Negated numbers have the highest bit set.
  if number.toNat < 2147483648 then number.toNat else 4294967296 - number.toNat

/-- The file error behind an error of this machine. -/
def fileErrorOf (error : IO.Error) : FileError :=
  -- Every error that can come from a file has a number.
  match error with
  | .noFileOrDirectory _ number details | .alreadyExists _ number details
  | .inappropriateType _ number details | .permissionDenied _ number details
  | .invalidArgument _ number details | .resourceExhausted _ number details
  | .noSuchThing _ number details | .otherError number details
  | .resourceBusy number details | .hardwareFault number details =>
    .ofNumber (errorNumber number) details
  | other => .other (toString other)

/-- The result of an attempt that may fail for a file error. -/
def attempt {α : Type} (action : IO α) : IO (Except FileError α) := do
  -- Other kinds of errors are worded by the machine.
  try
    return .ok (← action)
  catch error => return .error (fileErrorOf error)

/-- All that can still be read from a stream. -/
partial def readRest (stream : IO.FS.Stream) (sofar : ByteArray) : IO ByteArray := do
  -- An empty piece is the end.
  let piece ← stream.read 65536
  if piece.isEmpty then return sofar else readRest stream (sofar ++ piece)

/-- Something can be found under a path. -/
def isPresent (path : String) : IO Bool := do
  -- Whatever can be found but not opened is present too.
  match ← attempt (IO.FS.Handle.mk path .read) with
  | .ok _ => return true
  | .error .notFound | .error .notDirectory | .error .nameTooLong => return false
  | .error _ => return true

/-- A directory made unless it is there already. -/
def makeDirectory (path : String) : IO (Except FileError Unit) := do
  -- The name may be taken by something else.
  match ← attempt (IO.FS.createDir path) with
  | .error .taken =>
    if ← isPresent (Path.within path ".") then return .ok () else return .error .taken
  | result => return result

/-- Directories made one in the other, of which the innermost is given first. -/
def makeDirectories : List String → IO (Except FileError Unit)
  -- Those further out are made only if they are missing.
  | [] => return .ok ()
  | path :: outer => do
    match ← makeDirectory path with
    | .error .notFound =>
      match ← makeDirectories outer with
      | .ok () => makeDirectory path
      | .error error => return .error error
    | result => return result

/-- A text saved by way of a draft beside the file. -/
def saveText (path text : String) : IO (Except FileError Unit) := do
  -- The directories on the way are made first.
  match ← makeDirectories (Path.ways (Path.directory path)).reverse with
  | .error error => return .error error
  | .ok () => attempt do
    IO.FS.writeFile (Path.draft path) text
    IO.FS.rename (Path.draft path) path

/-- Work carried out on this machine. -/
def Work.carryOut {α : Type} : Work α → IO α
  -- Each answer decides how the work goes on.
  | .done value => return value
  | .print text next => do
    (← IO.getStdout).putStr text
    next.carryOut
  | .complain text next => do
    (← IO.getStderr).putStr text
    next.carryOut
  | .probe path next => do (next (← isPresent path)).carryOut
  | .read path next => do (next (← attempt (IO.FS.readBinFile path))).carryOut
  | .readInput next => do (next (← readRest (← IO.getStdin) .empty)).carryOut
  | .save path text next => do (next (← saveText path text)).carryOut

/-- The name of this machine, if it is known. -/
def hostName : IO String := do
  -- The system keeps it in a file.
  match ← attempt (IO.FS.readFile "/proc/sys/kernel/hostname") with
  | .ok name => return trimmed name
  | .error _ => return "localhost"

/-- The environment of this process. -/
def environment : IO Environment := do
  -- An empty home directory counts as none.
  let home ← IO.getEnv "HOME"
  return {
    home := home.filter fun path => !path.isEmpty
    namedLevel := ← IO.getEnv "RUST_LOG"
    numberedLevel := ← IO.getEnv "DEBUG_LEVEL"
    hostName := ← hostName }

end Annotator

/-- The exit code is that of the command. -/
def main (arguments : List String) : IO UInt32 := do
  -- The command line decides what is done.
  let environment ← Annotator.environment
  return UInt32.ofNat (← (Annotator.Run.ofArguments environment arguments).carryOut)

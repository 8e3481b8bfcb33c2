import Annotator.Builtin
import Annotator.Text.RawLines

/-! Replaying sends captured output through the built-in matchers as one invocation. -/

namespace Annotator

/-- The captured output of one command. -/
structure Capture where
  /-- The command and where it ran, with an unknown exit code. -/
  invocation : Invocation
  /-- Its exit code. -/
  exitCode : Int
  /-- Its output, as far as it could be read. -/
  output : ByteArray
  /-- Why no more of the output could be read, if there was more. -/
  breaksOff : Option String := none

/-- Why a replay fails. -/
inductive ReplayError
  /-- The output cannot be read, for a reason given by what reads it. -/
  | unreadable (reason : String)
  /-- The tracker refuses an operation. -/
  | refused (error : TrackerError)
  deriving DecidableEq, Repr

namespace ReplayError

/-- The wording of what failed. -/
def message : ReplayError → String
  -- A refusal speaks for itself.
  | .unreadable _ => "Failed to read input"
  | .refused error => error.message

/-- The reason behind what failed, if there is one. -/
def cause? : ReplayError → Option String
  -- A refusal has no deeper reason.
  | .unreadable reason => some reason
  | .refused _ => none

end ReplayError

namespace Replay

/-- The notice that a replay begins. -/
def startNotice (command : String) (id : InvocationId) (matchers : List String) : Notice :=
  -- The matchers that attach are listed.
  { severity := .info
    origin := "par_annotate::cli"
    message := "Replaying " ++ quoted command ++ " as " ++ id.label ++ " with matchers " ++
      quotedList matchers }

/-- Lines become unwrapped rows until one cannot be decoded, and are counted. -/
def feed (id : InvocationId) (tracker : Tracker) (count : Nat) :
    List (List UInt8) → Except ReplayError (Nat × Tracker) × Journal
  -- Carriage returns at the end of a line are dropped.
  | [] => (.ok (count, tracker), [])
  | bytes :: rest =>
    match Text.decode? bytes with
    | none => (.error (.unreadable Text.undecodable), [])
    | some line =>
      match tracker.pushRow id (Text.dropReturns line) false with
      | .error error => (.error (.refused error), [])
      | .ok (tracker, told) =>
        let (result, toldLater) := feed id tracker (count + 1) rest
        (result, told ++ toldLater)

/-- After the last line an invocation is finished, unless reading broke off there. -/
def conclude (id : InvocationId) (tracker : Tracker) (capture : Capture) (count : Nat) :
    Except ReplayError (List Region) × Journal :=
  -- The invocation is finished with the number of lines read.
  match capture.breaksOff with
  | some reason => (.error (.unreadable reason), [])
  | none =>
    match tracker.finish id capture.exitCode count with
    | .error error => (.error (.refused error), [])
    | .ok (tracker, told) => (.ok (tracker.table.forInvocation id), told)

/-- A replay in a registry under given settings yields the regions of the invocation. -/
def run (registry : Registry) (settings : Settings) (capture : Capture) :
    Except ReplayError (List Region) × Journal :=
  -- What was told before a failure stays told.
  let (id, tracker, begun) := (Tracker.ofSettings registry settings).begin capture.invocation
  let notice := startNotice capture.invocation.command id (tracker.activeMatchers id)
  let (fed, told) := feed id tracker 0 (Text.rawLines capture.output.toList)
  let journal := begun ++ .noticed notice :: told
  match fed with
  | .error error => (.error error, journal)
  | .ok (count, tracker) =>
    let (result, concluded) := conclude id tracker capture count
    (result, journal ++ concluded)

end Replay

end Annotator

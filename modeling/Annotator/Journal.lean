import Annotator.Hook.Basic
import Annotator.Text.Quoted

/-! The journal tells in order what happened: hook calls, matcher notes and library notices. -/

namespace Annotator

/-- How important a notice is. -/
inductive Severity
  /-- Something failed. -/
  | error
  /-- Something was given up. -/
  | warn
  /-- Something of interest happened. -/
  | info
  /-- Something helps to find mistakes. -/
  | debug
  /-- Something happened in detail. -/
  | trace
  deriving DecidableEq, Repr, Inhabited

namespace Severity

/-- The name of a severity. -/
def label : Severity → String
  -- The names are part of the output.
  | .error => "ERROR"
  | .warn => "WARN"
  | .info => "INFO"
  | .debug => "DEBUG"
  | .trace => "TRACE"

/-- Severities are ranked from the most to the least severe, starting at one. -/
def rank : Severity → Nat
  -- Rank zero is left for a level that admits nothing.
  | .error => 1
  | .warn => 2
  | .info => 3
  | .debug => 4
  | .trace => 5

end Severity

/-- A message about the work of the library. -/
structure Notice where
  /-- How important it is. -/
  severity : Severity
  /-- The part of the library it comes from. -/
  origin : String
  /-- What it says. -/
  message : String
  deriving DecidableEq, Repr

/-- A call of a hook, with what it was given. -/
inductive Call
  /-- A factory was asked about a command in a working directory. -/
  | accepts (command workingDir : String)
  /-- A factory was asked for a matcher. -/
  | create (site : Site)
  /-- A matcher was started. -/
  | start (invocation : Invocation)
  /-- A matcher was given a line. -/
  | line (view : View) (line : LogicalLine)
  /-- A matcher was finished. -/
  | finish (view : View) (totalRows : Nat)
  deriving DecidableEq, Repr

/-- How a call was answered. -/
inductive Verdict
  /-- What was offered is wanted. -/
  | wanted
  /-- What was offered is not wanted. -/
  | unwanted
  /-- Further lines are wanted. -/
  | proceed
  /-- No further line is wanted. -/
  | stop
  /-- The work was done. -/
  | done
  /-- The hook failed. -/
  | failed (fault : Fault)
  deriving DecidableEq, Repr

namespace Verdict

/-- The verdict on whether something is wanted. -/
def ofWish : Except Fault Bool → Verdict
  -- Commands and invocations are offered.
  | .ok true => .wanted
  | .ok false => .unwanted
  | .error fault => .failed fault

/-- The verdict on a line. -/
def ofFlow : Except Fault Flow → Verdict
  -- The line itself has been taken either way.
  | .ok .proceed => .proceed
  | .ok .stop => .stop
  | .error fault => .failed fault

/-- The verdict on work that has no result. -/
def ofWork : Except Fault Unit → Verdict
  -- Only a failure makes a difference.
  | .ok () => .done
  | .error fault => .failed fault

end Verdict

/-- One entry of the journal. -/
inductive Entry
  /-- A hook of the named matcher was called for an invocation and answered. -/
  | called (matcher : String) (invocation : InvocationId) (call : Call) (verdict : Verdict)
  /-- A matcher left a note. -/
  | noted (note : Note)
  /-- The library gave notice. -/
  | noticed (notice : Notice)
  deriving DecidableEq, Repr

/-- What happened, in order. -/
abbrev Journal := List Entry

namespace Journal

/-- The notices of a journal. -/
def notices (journal : Journal) : List Notice :=
  -- Calls and notes are passed over.
  journal.filterMap fun entry =>
    match entry with
    | .noticed notice => some notice
    | _ => none

/-- The notes of a journal. -/
def notes (journal : Journal) : List Note :=
  -- Calls and notices are passed over.
  journal.filterMap fun entry =>
    match entry with
    | .noted note => some note
    | _ => none

/-- The calls that a journal records for a matcher of an invocation, with their verdicts. -/
def callsOf (journal : Journal) (matcher : String) (invocation : InvocationId) :
    List (Call × Verdict) :=
  -- Matchers are told apart by name within an invocation.
  journal.filterMap fun entry =>
    match entry with
    | .called name id call verdict =>
      if name = matcher ∧ id = invocation then some (call, verdict) else none
    | _ => none

end Journal

end Annotator

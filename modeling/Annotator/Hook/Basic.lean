import Annotator.Output.Line
import Annotator.Region.Basic

/-! Hooks are the moments at which a matcher decides, together with the ways it may answer. -/

namespace Annotator

/-- What a matcher wants after a line. -/
inductive Flow
  /-- Further lines are wanted. -/
  | proceed
  /-- No further line is wanted. -/
  | stop
  deriving DecidableEq, Repr, Inhabited

/-- Whether a matcher that stopped is still finished. -/
inductive FinishPolicy
  /-- Only matchers that still take lines are finished. -/
  | activeOnly
  /-- Matchers that stopped are finished too. -/
  | always
  deriving DecidableEq, Repr, Inhabited

namespace FinishPolicy

/-- The policy under which stopping does or does not suppress finishing. -/
def ofFlag (finishAfterStop : Bool) : FinishPolicy :=
  -- Without the flag a matcher that stopped is left alone.
  if finishAfterStop then .always else .activeOnly

/-- The name of a policy in tables. -/
def label : FinishPolicy → String
  -- The names are part of the output.
  | .activeOnly => "ActiveOnly"
  | .always => "Always"

end FinishPolicy

/-- Why a hook did not give a decision. -/
inductive Fault
  /-- The matcher reported a failure of its own. -/
  | reported (text : String)
  /-- A region it tried to create was rejected. -/
  | rejected (error : RegionError)
  /-- The hook broke off. -/
  | crashed (text : String)
  deriving DecidableEq, Repr

namespace Fault

/-- A fault is a crash when the hook broke off. -/
def isCrash : Fault → Bool
  -- All other faults are answers of the hook.
  | .crashed _ => true
  | .reported _ | .rejected _ => false

/-- The wording of a fault. -/
def message : Fault → String
  -- Rejected regions speak for themselves.
  | .reported text => "matcher fault: " ++ text
  | .rejected error => error.message
  | .crashed text => "matcher panicked: " ++ text

end Fault

/-- What a hook may ask about the output it works on. -/
structure View where
  /-- The invocation. -/
  invocation : InvocationId
  /-- The number of rows received so far. -/
  rowCount : Nat
  deriving DecidableEq, Repr, Inhabited

/-- What a matcher may tell about its own work. -/
inductive Remark
  /-- It was built for a site. -/
  | built (site : Site)
  /-- It was started with an exit code, if that was known. -/
  | started (exitCode : Option Int)
  /-- It took a line that occupies the given rows. -/
  | line (text : String) (startRow endRow : Nat)
  /-- It was finished with a total number of rows. -/
  | finished (totalRows : Nat)
  /-- It created a region. -/
  | created (id : RegionId)
  /-- Something it tried failed and it carried on. -/
  | failed (fault : Fault)
  /-- It holds a reservation. -/
  | reserved (id : RegionId)
  /-- It looked at its view. -/
  | viewed (view : View)
  deriving DecidableEq, Repr

/-- A remark together with the matcher that made it. -/
structure Note where
  /-- The name of the matcher. -/
  matcher : String
  /-- What it tells. -/
  remark : Remark
  deriving DecidableEq, Repr

end Annotator

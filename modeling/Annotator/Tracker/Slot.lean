import Annotator.Registry

/-! A slot holds one matcher of one invocation and how far it has come. -/

namespace Annotator

/-- How far a matcher has come within its invocation. -/
inductive SlotStatus
  /-- It waits for the invocation to complete before it is started. -/
  | waiting
  /-- It takes lines. -/
  | active
  /-- It wanted no further line. -/
  | stopped
  /-- One of its hooks failed. -/
  | faulted
  /-- It did not want the invocation when it was started at completion. -/
  | declined
  deriving DecidableEq, Repr, Inhabited

namespace SlotStatus

/-- How far a matcher has come once it was started. -/
def afterStart : Except Fault Bool → SlotStatus
  -- Only a matcher that wants the invocation takes lines.
  | .ok true => .active
  | .ok false => .declined
  | .error _ => .faulted

/-- How far a matcher has come once it took a line. -/
def afterLine : Except Fault Flow → SlotStatus
  -- Further lines follow only if they are wanted.
  | .ok .proceed => .active
  | .ok .stop => .stopped
  | .error _ => .faulted

/-- How far a matcher has come once it was finished. -/
def afterFinish (status : SlotStatus) : Except Fault Unit → SlotStatus
  -- Finishing changes nothing unless it fails.
  | .ok () => status
  | .error _ => .faulted

end SlotStatus

/-- A matcher attached to an invocation. -/
structure Slot where
  /-- The name of its factory. -/
  name : String
  /-- Whether it is finished after it stopped. -/
  finishPolicy : FinishPolicy
  /-- The matcher itself. -/
  matcher : Matcher
  /-- How far it has come. -/
  status : SlotStatus

namespace Slot

/-- The slot for an attachment. -/
def ofAttachment (attachment : Attachment) (status : SlotStatus) : Slot :=
  -- Scheduling has been decided once the status is known.
  { name := attachment.name, finishPolicy := attachment.finishPolicy
    matcher := attachment.matcher, status }

/-- A slot wants finishing while it takes lines, and after it stopped if its policy says so. -/
def wantsFinish (slot : Slot) : Bool :=
  -- Slots that failed or declined are left alone.
  match slot.status with
  | .active => true
  | .stopped => slot.finishPolicy == .always
  | _ => false

/-- A slot takes or waits for lines. -/
def isOpen (slot : Slot) : Bool :=
  -- These two states are the ones from which lines can still be delivered.
  slot.status == .active || slot.status == .waiting

end Slot

/-- The notice that a matcher takes no further part because a hook failed. -/
def faultNotice (name : String) (id : InvocationId) (hook : String) (fault : Fault) : Notice :=
  -- The hook is named as matchers know it.
  { severity := .warn
    origin := "par_annotate::tracker"
    message := "Matcher " ++ name ++ " deactivated for " ++ id.label ++ " after " ++ hook ++
      " failed: " ++ fault.message }

/-- What happens around one hook call: the call itself, its notes and the notice of its failure. -/
def hookJournal (name : String) (id : InvocationId) (hook : String) (call : Call)
    (verdict : Verdict) (notes : List Note) : Journal :=
  -- A failure is noticed after everything the hook did.
  .called name id call verdict :: notes.map .noted ++
    match verdict with
    | .failed fault => [.noticed (faultNotice name id hook fault)]
    | _ => []

/-- What remains fixed while the hooks of an invocation run. -/
structure Stage where
  /-- The invocation. -/
  id : InvocationId
  /-- The limits on what is created. -/
  limits : Limits
  /-- The rows received so far. -/
  rows : Array String

namespace Stage

/-- The scene for a matcher and, where there is one, the current line. -/
def scene (stage : Stage) (matcher : String) (line : Option LogicalLine) : Scene :=
  -- Every event sees all rows received so far.
  { invocation := stage.id, matcher, limits := stage.limits, rows := stage.rows, line }

end Stage

namespace Slot

/-- Delivering a line to an active slot may stop it. -/
def deliver (stage : Stage) (slot : Slot) (table : RegionTable) (line : LogicalLine) :
    Slot × RegionTable × Journal :=
  -- A slot in any other state is passed over.
  if slot.status != .active then (slot, table, [])
  else
    let scene := stage.scene slot.name (some line)
    let (handled, table) := slot.matcher.takeLine scene table line
    ({ slot with matcher := handled.matcher, status := .afterLine handled.answer }, table,
      hookJournal slot.name stage.id "on_line" (.line scene.view line) (.ofFlow handled.answer)
        handled.notes)

/-- Delivering lines one after the other ends when the slot no longer takes lines. -/
def deliverLines (stage : Stage) (slot : Slot) (table : RegionTable) :
    List LogicalLine → Slot × RegionTable × Journal
  -- Lines behind the last one taken are passed over.
  | [] => (slot, table, [])
  | line :: rest =>
    let (slot, table, told) := slot.deliver stage table line
    let (slot, table, toldLater) := slot.deliverLines stage table rest
    (slot, table, told ++ toldLater)

/-- A waiting slot is started at completion and then takes the retained lines. -/
def catchUp (stage : Stage) (invocation : Invocation) (slot : Slot) (table : RegionTable)
    (lines : List LogicalLine) : Slot × RegionTable × Journal :=
  -- A slot that is not waiting has nothing to catch up with.
  if slot.status != .waiting then (slot, table, [])
  else
    let handled := slot.matcher.start invocation
    let told := hookJournal slot.name stage.id "on_start" (.start invocation)
      (.ofWish handled.answer) handled.notes
    -- A matcher that failed or declined passes over the lines.
    let started := { slot with
      matcher := handled.matcher, status := .afterStart handled.answer }
    let (slot, table, toldLater) := started.deliverLines stage table lines
    (slot, table, told ++ toldLater)

/-- A slot that wants finishing is finished. -/
def finish (stage : Stage) (slot : Slot) (table : RegionTable) (totalRows : Nat) :
    Slot × RegionTable × Journal :=
  -- There is no current line at the end of an invocation.
  if !slot.wantsFinish then (slot, table, [])
  else
    let scene := stage.scene slot.name none
    let (handled, table) := slot.matcher.finish scene table totalRows
    ({ slot with
        matcher := handled.matcher, status := slot.status.afterFinish handled.answer }, table,
      hookJournal slot.name stage.id "on_finish" (.finish scene.view totalRows)
        (.ofWork handled.answer) handled.notes)

/-- Completing a slot lets it catch up and then finishes it. -/
def complete (stage : Stage) (invocation : Invocation) (lines : List LogicalLine)
    (totalRows : Nat) (slot : Slot) (table : RegionTable) : Slot × RegionTable × Journal :=
  -- All remaining calls of a slot form one group.
  let (slot, table, told) := slot.catchUp stage invocation table lines
  let (slot, table, toldLater) := slot.finish stage table totalRows
  (slot, table, told ++ toldLater)

/-- Passing over slots in order threads the region table through a step on each. -/
def each (step : Slot → RegionTable → Slot × RegionTable × Journal) :
    List Slot → RegionTable → List Slot × RegionTable × Journal
  -- A later slot sees the regions of the earlier ones in the table.
  | [], table => ([], table, [])
  | slot :: rest, table =>
    let (slot, table, told) := step slot table
    let (rest, table, toldLater) := each step rest table
    (slot :: rest, table, told ++ toldLater)

end Slot

end Annotator

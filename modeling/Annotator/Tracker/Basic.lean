import Annotator.Tracker.Running

/-! The tracker drives the matchers of any number of invocations from beginning to end. -/

namespace Annotator

/-- What a host can see of the life of an invocation. -/
inductive Phase
  /-- Its output is being received. -/
  | running
  /-- It was finished or abandoned. -/
  | done
  deriving DecidableEq, Repr, Inhabited

namespace Phase

/-- The name of a phase. -/
def label : Phase → String
  -- The names are part of the output.
  | .running => "Running"
  | .done => "Done"

end Phase

/-- Why an operation on an invocation is refused. -/
inductive TrackerError
  /-- No invocation was begun under this number. -/
  | unknownInvocation (id : InvocationId)
  /-- The invocation was finished or abandoned before. -/
  | alreadyFinished (id : InvocationId)
  deriving DecidableEq, Repr

namespace TrackerError

/-- The wording of a tracker error. -/
def message : TrackerError → String
  -- The invocation is named by its label.
  | .unknownInvocation id => "unknown invocation " ++ id.label
  | .alreadyFinished id => "invocation " ++ id.label ++ " already finished or abandoned"

end TrackerError

/-- The state of all tracked invocations together with their regions. -/
structure Tracker where
  /-- The registry, which is sealed. -/
  registry : Registry
  /-- Whether matchers that are not fast wait for completion. -/
  deferBuffered : Bool := true
  /-- The limits on what is created. -/
  limits : Limits := {}
  /-- The regions of all invocations. -/
  table : RegionTable := {}
  /-- The invocations whose output is being received. -/
  running : List (InvocationId × Running) := []
  /-- The number of the next invocation. -/
  nextId : Nat := 1

namespace Tracker

/-- A tracker seals the registry it is given. -/
def ofRegistry (registry : Registry) (deferBuffered : Bool) (limits : Limits) : Tracker :=
  -- No invocation is tracked at first.
  { registry := registry.close, deferBuffered, limits }

/-- The state of an invocation while it runs. -/
def running? (tracker : Tracker) (id : InvocationId) : Option Running :=
  -- Numbers are unique among the running invocations.
  (tracker.running.find? (·.1 == id)).map (·.2)

/-- An invocation was begun at some time. -/
def wasIssued (tracker : Tracker) (id : InvocationId) : Bool :=
  -- Numbers are issued in sequence from one.
  0 < id.number && id.number < tracker.nextId

/-- The number of invocations that are running. -/
def size (tracker : Tracker) : Nat :=
  -- Finished and abandoned invocations are released.
  tracker.running.length

/-- No invocation is running. -/
def isIdle (tracker : Tracker) : Bool :=
  -- Regions may still be present.
  tracker.running.isEmpty

/-- The phase of an invocation that was begun. -/
def phase? (tracker : Tracker) (id : InvocationId) : Option Phase :=
  -- An issued number that no longer runs is done.
  if (tracker.running? id).isSome then some .running
  else if tracker.wasIssued id then some .done
  else none

/-- The names of the matchers that take or wait for lines. -/
def activeMatchers (tracker : Tracker) (id : InvocationId) : List String :=
  -- An invocation that is not running has none.
  match tracker.running? id with
  | some running => (running.slots.filter Slot.isOpen).map (·.name)
  | none => []

/-- Why an invocation that is not running cannot be worked on. -/
def refusal (tracker : Tracker) (id : InvocationId) : TrackerError :=
  -- Numbers never issued are unknown.
  if tracker.wasIssued id then .alreadyFinished id else .unknownInvocation id

/-- An invocation replaced by a later state of itself. -/
def update (tracker : Tracker) (id : InvocationId) (running : Running) (table : RegionTable) :
    Tracker :=
  -- All other invocations stay as they are.
  { tracker with
    table
    running := tracker.running.map fun pair => if pair.1 == id then (id, running) else pair }

/-- An invocation released from tracking. -/
def release (tracker : Tracker) (id : InvocationId) : Tracker :=
  -- Its regions stay in the table.
  { tracker with running := tracker.running.filter fun pair => pair.1 != id }

/-- A matcher that may not wait is started at once and kept if it wants the invocation. -/
def attach (id : InvocationId) (invocation : Invocation) (attachment : Attachment) :
    Option Slot × Journal :=
  -- Starting creates no region.
  let handled := attachment.matcher.start invocation
  let told := hookJournal attachment.name id "on_start" (.start invocation)
    (.ofWish handled.answer) handled.notes
  match handled.answer with
  | .ok true =>
    (some (Slot.ofAttachment { attachment with matcher := handled.matcher } .active), told)
  | _ => (none, told)

/-- Attachments become slots, in order. -/
def attachAll (deferBuffered : Bool) (id : InvocationId) (invocation : Invocation) :
    List Attachment → List Slot × Journal
  -- Under deferral only fast matchers are started now.
  | [] => ([], [])
  | attachment :: rest =>
    let (added, told) :=
      if !attachment.fast && deferBuffered then (some (Slot.ofAttachment attachment .waiting), [])
      else attach id invocation attachment
    let (others, toldLater) := attachAll deferBuffered id invocation rest
    (added.toList ++ others, told ++ toldLater)

/-- Beginning an invocation issues its number and attaches its matchers. -/
def begin (tracker : Tracker) (invocation : Invocation) : InvocationId × Tracker × Journal :=
  -- All factories are consulted before any matcher is started.
  let id : InvocationId := ⟨tracker.nextId⟩
  let (attached, told) := tracker.registry.resolve id invocation
  let (slots, toldLater) := attachAll tracker.deferBuffered id invocation attached
  (id,
    { tracker with
      nextId := tracker.nextId + 1
      running := tracker.running ++ [(id, { invocation, slots })] },
    told ++ toldLater)

/-- Pushing a row that may wrap into the next one. -/
def pushRow (tracker : Tracker) (id : InvocationId) (row : String) (wraps : Bool) :
    Except TrackerError (Tracker × Journal) :=
  -- Only running invocations take rows.
  match tracker.running? id with
  | none => .error (tracker.refusal id)
  | some running =>
    let (running, table, told) := running.push id tracker.limits tracker.table row wraps
    .ok (tracker.update id running table, told)

/-- Finishing an invocation completes its matchers and releases it. -/
def finish (tracker : Tracker) (id : InvocationId) (exitCode : Int) (totalRows : Nat) :
    Except TrackerError (Tracker × Journal) :=
  -- Only running invocations can be finished.
  match tracker.running? id with
  | none => .error (tracker.refusal id)
  | some running =>
    let (table, told) := running.complete id tracker.limits tracker.table exitCode totalRows
    .ok ({ tracker.release id with table }, told)

/-- Abandoning an invocation releases it without finishing its matchers. -/
def abandon (tracker : Tracker) (id : InvocationId) : Except TrackerError Tracker :=
  -- Only running invocations can be abandoned.
  match tracker.running? id with
  | none => .error (tracker.refusal id)
  | some _ => .ok (tracker.release id)

/-- Evicting a region touches nothing but the table. -/
def evict (tracker : Tracker) (id : RegionId) : Option Region × Tracker :=
  -- Running invocations do not notice.
  let (region, table) := tracker.table.evict id
  (region, { tracker with table })

/-- Evicting the regions of an invocation touches nothing but the table. -/
def evictInvocation (tracker : Tracker) (id : InvocationId) : Nat × Tracker :=
  -- The invocation may go on and make new regions.
  let (count, table) := tracker.table.evictInvocation id
  (count, { tracker with table })

end Tracker

end Annotator

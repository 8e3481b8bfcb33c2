import Annotator.Tracker.Basic
import Mathlib.Data.List.Induction

/-! A course is a sequence of operations carried out on a tracker, one after the other. -/

namespace Annotator

/-- What a host may ask of a tracker. -/
inductive Operation
  /-- A new invocation is begun. -/
  | begin (invocation : Invocation)
  /-- A row of output arrives. -/
  | pushRow (id : InvocationId) (row : String) (wraps : Bool)
  /-- An invocation completes. -/
  | finish (id : InvocationId) (exitCode : Int) (totalRows : Nat)
  /-- An invocation is given up. -/
  | abandon (id : InvocationId)
  /-- A region is removed. -/
  | evict (id : RegionId)
  /-- All regions of an invocation are removed. -/
  | evictInvocation (id : InvocationId)
  deriving DecidableEq, Repr

/-- What a host is told about an operation. -/
inductive Response
  /-- An invocation was begun under a number. -/
  | issued (id : InvocationId)
  /-- The operation was carried out. -/
  | accepted
  /-- The operation was refused. -/
  | refused (error : TrackerError)
  /-- A region was removed, if it was present. -/
  | removed (region : Option Region)
  /-- A number of regions were removed. -/
  | cleared (count : Nat)
  deriving DecidableEq

/-- Where a sequence of operations leads. -/
structure Course where
  /-- The tracker after the last operation. -/
  tracker : Tracker
  /-- The responses, in order. -/
  responses : List Response := []
  /-- What happened, in order. -/
  journal : Journal := []

namespace Tracker

/-- Carrying out one operation, where a refused one changes nothing. -/
def perform (tracker : Tracker) : Operation → Response × Tracker × Journal
  -- Every operation is one of the tracker's own.
  | .begin invocation =>
    let (id, tracker, told) := tracker.begin invocation
    (.issued id, tracker, told)
  | .pushRow id row wraps =>
    match tracker.pushRow id row wraps with
    | .ok (tracker, told) => (.accepted, tracker, told)
    | .error error => (.refused error, tracker, [])
  | .finish id exitCode totalRows =>
    match tracker.finish id exitCode totalRows with
    | .ok (tracker, told) => (.accepted, tracker, told)
    | .error error => (.refused error, tracker, [])
  | .abandon id =>
    match tracker.abandon id with
    | .ok tracker => (.accepted, tracker, [])
    | .error error => (.refused error, tracker, [])
  | .evict id =>
    let (region, tracker) := tracker.evict id
    (.removed region, tracker, [])
  | .evictInvocation id =>
    let (count, tracker) := tracker.evictInvocation id
    (.cleared count, tracker, [])

end Tracker

namespace Course

/-- A course goes on by one operation. -/
def follow (course : Course) (operation : Operation) : Course :=
  -- Responses and journal grow at the end.
  let (response, tracker, told) := course.tracker.perform operation
  { tracker, responses := course.responses ++ [response], journal := course.journal ++ told }

/-- A course that goes on leads where the operation leads. -/
theorem follow_tracker (course : Course) (operation : Operation) :
    (course.follow operation).tracker = (course.tracker.perform operation).2.1 :=
  -- The course goes on with the tracker that the operation leaves.
  rfl

/-- A course that goes on is answered as the operation is behind everything before. -/
theorem follow_responses (course : Course) (operation : Operation) :
    (course.follow operation).responses =
      course.responses ++ [(course.tracker.perform operation).1] :=
  -- The response is added at the end.
  rfl

/-- A course that goes on tells what the operation tells behind everything before. -/
theorem follow_journal (course : Course) (operation : Operation) :
    (course.follow operation).journal =
      course.journal ++ (course.tracker.perform operation).2.2 :=
  -- The journal is continued.
  rfl

end Course

namespace Tracker

/-- The course of operations that starts from a tracker. -/
def course (tracker : Tracker) (operations : List Operation) : Course :=
  -- The operations are carried out in order.
  operations.foldl Course.follow { tracker }

/-- A course without operations ends where it starts. -/
@[simp] theorem course_nil (tracker : Tracker) : tracker.course [] = { tracker } :=
  -- Nothing was performed.
  rfl

/-- A course of one operation leads where the operation leads. -/
theorem course_singleton (tracker : Tracker) (operation : Operation) :
    (tracker.course [operation]).tracker = (tracker.perform operation).2.1 ∧
      (tracker.course [operation]).journal = (tracker.perform operation).2.2 := by
  -- One operation was performed.
  simp [course, Course.follow]

/-- A course is extended at its end. -/
theorem course_concat (tracker : Tracker) (operations : List Operation) (operation : Operation) :
    tracker.course (operations ++ [operation]) = (tracker.course operations).follow operation := by
  -- The last operation is carried out on what all others left.
  simp [course]

/-- A course of two stretches tells what happened in both of them. -/
theorem course_append (tracker : Tracker) (early late : List Operation) :
    (tracker.course (early ++ late)).tracker =
        ((tracker.course early).tracker.course late).tracker ∧
      (tracker.course (early ++ late)).journal =
        (tracker.course early).journal ++ ((tracker.course early).tracker.course late).journal := by
  -- The induction adds the later operations one by one.
  induction late using List.reverseRecOn with
  | nil => simp
  | append_singleton late operation ih =>
    rw [← List.append_assoc, course_concat, course_concat]
    simp only [Course.follow_tracker, Course.follow_journal, ih, List.append_assoc, and_self]

/-- There is one response to each operation. -/
theorem length_responses (tracker : Tracker) (operations : List Operation) :
    (tracker.course operations).responses.length = operations.length := by
  -- Induction on the operations from their end, each of which gets one response.
  induction operations using List.reverseRecOn with
  | nil => rfl
  | append_singleton operations operation ih =>
    rw [course_concat, Course.follow, List.length_append, List.length_append, ih]
    rfl

/-- The answers to operations and one more are those to the operations and the one to the last. -/
theorem zip_responses_concat (start : Tracker) (operations : List Operation)
    (operation : Operation) :
    (operations ++ [operation]).zip (start.course (operations ++ [operation])).responses =
      operations.zip (start.course operations).responses ++
        [(operation, ((start.course operations).tracker.perform operation).1)] := by
  -- There are as many responses as operations, so the last ones are paired.
  rw [course_concat, Course.follow_responses,
    List.zip_append (start.length_responses operations).symm]
  rfl

/-- The first operation of a course is carried out before all others. -/
theorem course_cons (tracker : Tracker) (operation : Operation) (later : List Operation) :
    tracker.course (operation :: later) =
      let first := tracker.perform operation
      let rest := first.2.1.course later
      { tracker := rest.tracker
        responses := first.1 :: rest.responses
        journal := first.2.2 ++ rest.journal } := by
  -- Induction on the later operations from their end, as a course is continued there.
  induction later using List.reverseRecOn with
  | nil => simp [course, Course.follow]
  | append_singleton later last ih =>
    rw [← List.cons_append, course_concat, ih]
    dsimp only
    rw [course_concat]
    simp only [Course.follow, List.cons_append, List.append_assoc]

end Tracker

end Annotator

import Annotator.Hook.Basic
import Annotator.Region.Desk

/-! A hook acts on the region table only through a program of reservations and creations. -/

namespace Annotator

/-- What a hook does, step by step, until it has a value. -/
inductive Program (α : Type)
  /-- The value is reached. -/
  | done (value : α)
  /-- A note is left before going on. -/
  | tell (note : Note) (next : Program α)
  /-- The number of the next region is asked for. -/
  | reserve (next : RegionId → Program α)
  /-- A region is created over bytes of the current line. -/
  | create (start stop : Nat) (metadata : Metadata)
      (next : Except RegionError RegionId → Program α)
  /-- A region is created between two positions. -/
  | createAt (start stop : Position) (metadata : Metadata)
      (next : Except RegionError RegionId → Program α)

/-- The view that a scene allows. -/
def Scene.view (scene : Scene) : View :=
  -- The texts of the rows stay hidden.
  { invocation := scene.invocation, rowCount := scene.rows.size }

/-- What running a program leaves behind. -/
structure Outcome (α : Type) where
  /-- The value it reached. -/
  value : α
  /-- The desk after its last step. -/
  desk : Desk
  /-- The notes it left, in order. -/
  notes : List Note := []

/-- The answer to a creation, with the desk it leaves. -/
def Desk.settle (desk : Desk) :
    Except RegionError (RegionId × Desk) → Except RegionError RegionId × Desk
  -- A rejected creation leaves the desk as it was.
  | .ok (id, next) => (.ok id, next)
  | .error error => (.error error, desk)

namespace Program

/-- Running a program in a scene carries its steps out on a desk. -/
def run (scene : Scene) {α : Type} : Program α → Desk → Outcome α
  -- Each answer decides how the program goes on.
  | .done value, desk => { value, desk }
  | .tell note next, desk =>
    let outcome := run scene next desk
    { outcome with notes := note :: outcome.notes }
  | .reserve next, desk =>
    let (id, held) := desk.reserve
    run scene (next id) held
  | .create start stop metadata next, desk =>
    let (answer, settled) := desk.settle (scene.createOnLine desk start stop metadata)
    run scene (next answer) settled
  | .createAt start stop metadata next, desk =>
    let (answer, settled) := desk.settle (scene.createAt desk start stop metadata)
    run scene (next answer) settled

/-- A program may be followed by another that depends on its value. -/
def bind {α β : Type} : Program α → (α → Program β) → Program β
  -- The second program takes the place of the value.
  | .done value, follow => follow value
  | .tell note next, follow => .tell note (next.bind follow)
  | .reserve next, follow => .reserve fun id => (next id).bind follow
  | .create start stop metadata next, follow =>
    .create start stop metadata fun answer => (next answer).bind follow
  | .createAt start stop metadata next, follow =>
    .createAt start stop metadata fun answer => (next answer).bind follow

instance : Monad Program where
  pure := .done
  bind := .bind

end Program

end Annotator

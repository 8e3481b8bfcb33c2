import Annotator.Hook.Program

/-! A matcher follows one invocation, and a factory builds one for each invocation it accepts. -/

namespace Annotator

/-- The answer of a hook together with the state it leaves. -/
structure Reply (σ α : Type) where
  /-- The state after the hook. -/
  state : σ
  /-- The decision, unless the hook failed. -/
  answer : Except Fault α

/-- The hooks of a kind of matcher, as functions of its state. -/
structure Machine (σ : Type) where
  /-- Starting decides whether the matcher wants the invocation at all. -/
  onStart : Invocation → σ → List Note × Reply σ Bool
  /-- Each line may lead to regions and decides whether more lines are wanted. -/
  onLine : View → LogicalLine → σ → Program (Reply σ Flow)
  /-- Finishing may lead to regions once the total number of rows is known. -/
  onFinish : View → Nat → σ → Program (Reply σ Unit)

/-- A matcher is a machine in some state. -/
structure Matcher where
  /-- The type of its states. -/
  State : Type
  /-- Its hooks. -/
  machine : Machine State
  /-- Its current state. -/
  state : State

/-- What a hook of a matcher leads to. -/
structure Handled (α : Type) where
  /-- The matcher after the hook. -/
  matcher : Matcher
  /-- The decision, unless the hook failed. -/
  answer : Except Fault α
  /-- The notes it left, in order. -/
  notes : List Note

namespace Matcher

/-- A program that replies is run at a desk of its own, whose reservation ends with it. -/
def handle (matcher : Matcher) (scene : Scene) (table : RegionTable) {α : Type}
    (program : Program (Reply matcher.State α)) : Handled α × RegionTable :=
  -- A failed hook keeps the regions it created before failing.
  let outcome := program.run scene { table }
  ({ matcher := { matcher with state := outcome.value.state }
     answer := outcome.value.answer
     notes := outcome.notes },
    outcome.desk.table)

/-- Starting a matcher cannot create regions. -/
def start (matcher : Matcher) (invocation : Invocation) : Handled Bool :=
  -- There is no output yet on which a region could lie.
  let (notes, reply) := matcher.machine.onStart invocation matcher.state
  { matcher := { matcher with state := reply.state }, answer := reply.answer, notes }

/-- Giving a matcher the current line of a scene. -/
def takeLine (matcher : Matcher) (scene : Scene) (table : RegionTable) (line : LogicalLine) :
    Handled Flow × RegionTable :=
  -- The matcher sees no more of the scene than its view.
  matcher.handle scene table (matcher.machine.onLine scene.view line matcher.state)

/-- Finishing a matcher at the end of its invocation. -/
def finish (matcher : Matcher) (scene : Scene) (table : RegionTable) (totalRows : Nat) :
    Handled Unit × RegionTable :=
  -- The matcher sees no more of the scene than its view.
  matcher.handle scene table (matcher.machine.onFinish scene.view totalRows matcher.state)

end Matcher

/-- A registered kind of matcher. -/
structure Factory where
  /-- The name it is known by. -/
  name : String
  /-- Fast matchers take lines as they arrive, whatever the scheduling. -/
  fast : Bool := false
  /-- Whether its matchers are finished after they stopped. -/
  finishPolicy : FinishPolicy := .activeOnly
  /-- Whether it attaches to a command run in a working directory. -/
  accepts : (command workingDir : String) → Except Fault Bool
  /-- Building a matcher leaves notes and may break off with a text. -/
  create : Site → List Note × Except String Matcher

/-- A factory made of a function that decides and one that builds. -/
def Factory.ofFunctions (name : String)
    (accepts : (command workingDir : String) → Except Fault Bool)
    (create : Site → List Note × Except String Matcher) : Factory :=
  -- Scheduling and policy are left at their defaults.
  { name, accepts, create }

end Annotator

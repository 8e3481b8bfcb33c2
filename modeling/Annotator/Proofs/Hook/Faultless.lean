import Annotator.Proofs.Text.Boundary
import Annotator.Proofs.Region.Growth
import Annotator.Registry

/-! A matcher is faultless when all regions it asks for are granted and none of its hooks fails. -/

namespace Annotator

namespace Program

/-- In a scene a program is granted every region it asks for and reaches a wanted value. -/
def Granted (scene : Scene) {α : Type} (wanted : α → Prop) : Program α → Prop
  -- Which numbers are issued makes no difference.
  | .done value => wanted value
  | .tell _ next => next.Granted scene wanted
  | .reserve next => ∀ id, (next id).Granted scene wanted
  | .create start stop metadata next =>
    (∃ line, scene.line = some line ∧ Scene.spanSound line.text start stop = true) ∧
      metadata.validate = .ok () ∧ ∀ id, (next (.ok id)).Granted scene wanted
  | .createAt start stop metadata next =>
    (scene.holds start = true ∧ scene.holdsEnd stop = true ∧ start ≤ stop) ∧
      metadata.validate = .ok () ∧ ∀ id, (next (.ok id)).Granted scene wanted

end Program

namespace Scene

variable {scene : Scene} {metadata : Metadata}

/-- Valid metadata is placed. -/
theorem place_granted (valid : metadata.validate = .ok ()) (desk : Desk) (start stop : Position) :
    ∃ id next, scene.place desk start stop metadata = .ok (id, next) :=
  -- Valid metadata is all that placing asks for.
  ⟨_, _, place_eq_ok_iff.mpr ⟨valid, rfl, rfl⟩⟩

/-- Valid metadata is granted over a sound span of the current line. -/
theorem createOnLine_granted {line : LogicalLine} (current : scene.line = some line)
    {start stop : Nat} (sound : spanSound line.text start stop = true)
    (valid : metadata.validate = .ok ()) (desk : Desk) :
    ∃ id next, scene.createOnLine desk start stop metadata = .ok (id, next) := by
  -- There is a line and the span is sound, so nothing but the metadata is left to check.
  simp only [createOnLine, current, sound, if_true]
  exact place_granted valid desk _ _

/-- Valid metadata is granted between ordered positions that the output holds. -/
theorem createAt_granted {start stop : Position} (startHeld : scene.holds start = true)
    (stopHeld : scene.holdsEnd stop = true) (ordered : start ≤ stop)
    (valid : metadata.validate = .ok ()) (desk : Desk) :
    ∃ id next, scene.createAt desk start stop metadata = .ok (id, next) := by
  -- The positions pass their checks, so nothing but the metadata is left to check.
  simp only [createAt, startHeld, stopHeld, ordered, Bool.not_true, Bool.false_eq_true, if_false,
    if_true]
  exact place_granted valid desk _ _

end Scene

namespace Program

/-- A granted program reaches a wanted value at every desk. -/
theorem Granted.run {scene : Scene} {α : Type} {wanted : α → Prop} {program : Program α}
    (granted : program.Granted scene wanted) (desk : Desk) :
    wanted (program.run scene desk).value := by
  -- Each creation is answered with a number, so the program goes on as it was granted.
  induction program generalizing desk with
  | done value => exact granted
  | tell note next ih => exact ih granted desk
  | reserve next ih => exact ih _ (granted _) _
  | create start stop metadata next ih =>
    obtain ⟨⟨line, current, sound⟩, valid, onward⟩ := granted
    obtain ⟨id, made, created⟩ := Scene.createOnLine_granted current sound valid desk
    simp only [Program.run, created, Desk.settle]
    exact ih _ (onward id) made
  | createAt start stop metadata next ih =>
    obtain ⟨⟨startHeld, stopHeld, ordered⟩, valid, onward⟩ := granted
    obtain ⟨id, made, created⟩ := Scene.createAt_granted startHeld stopHeld ordered valid desk
    simp only [Program.run, created, Desk.settle]
    exact ih _ (onward id) made

end Program

/-- The hooks of a machine never fail, whatever they are given and whatever its state. -/
structure Machine.Faultless {σ : Type} (machine : Machine σ) : Prop where
  /-- Starting gives a decision. -/
  start : ∀ invocation state, ∃ wanted, (machine.onStart invocation state).2.answer = .ok wanted
  /-- A line is granted its regions and gives a decision. -/
  line : ∀ scene line state, scene.line = some line →
    (machine.onLine scene.view line state).Granted scene fun reply =>
      ∃ flow, reply.answer = .ok flow
  /-- Finishing is granted its regions and succeeds. -/
  finish : ∀ scene totalRows state,
    (machine.onFinish scene.view totalRows state).Granted scene fun reply =>
      reply.answer = .ok ()

/-- The texts of an invocation that enter actions unchecked have no reserved character. -/
structure Invocation.Clean (invocation : Invocation) : Prop where
  /-- The server has none. -/
  server : hasReserved invocation.server = false
  /-- The terminal has none. -/
  terminal : hasReserved invocation.terminal = false

/-- A factory always decides, and builds faultless matchers for clean invocations it accepts. -/
structure Factory.Faultless (factory : Factory) : Prop where
  /-- It decides about every command. -/
  accepts : ∀ command workingDir, ∃ wanted, factory.accepts command workingDir = .ok wanted
  /-- Building succeeds for what it accepts. -/
  create : ∀ invocation : Invocation, invocation.Clean →
    factory.accepts (Registry.siteOf invocation).command invocation.workingDir = .ok true →
      ∃ notes matcher, factory.create (Registry.siteOf invocation) = (notes, .ok matcher) ∧
        matcher.machine.Faultless

namespace Matcher

variable {matcher : Matcher}

/-- Starting a faultless matcher gives a decision and leaves it faultless. -/
theorem start_faultless (faultless : matcher.machine.Faultless) (invocation : Invocation) :
    (∃ wanted, (matcher.start invocation).answer = .ok wanted) ∧
      (matcher.start invocation).matcher.machine.Faultless :=
  -- Starting leaves the machine as it is.
  ⟨faultless.start invocation matcher.state, faultless⟩

/-- A faultless matcher takes the current line and stays faultless. -/
theorem takeLine_faultless (faultless : matcher.machine.Faultless) {scene : Scene}
    {line : LogicalLine} (current : scene.line = some line) (table : RegionTable) :
    (∃ flow, (matcher.takeLine scene table line).1.answer = .ok flow) ∧
      (matcher.takeLine scene table line).1.matcher.machine.Faultless :=
  -- What the hook asks for is granted, at a desk without a reservation.
  ⟨(faultless.line scene line matcher.state current).run { table }, faultless⟩

/-- A faultless matcher is finished and stays faultless. -/
theorem finish_faultless (faultless : matcher.machine.Faultless) (scene : Scene)
    (table : RegionTable) (totalRows : Nat) :
    (matcher.finish scene table totalRows).1.answer = .ok () ∧
      (matcher.finish scene table totalRows).1.matcher.machine.Faultless :=
  -- What the hook asks for is granted, at a desk without a reservation.
  ⟨(faultless.finish scene totalRows matcher.state).run { table }, faultless⟩

end Matcher

namespace Scene

/-- What stands behind any front of a line is a sound span of it. -/
theorem spanSound_back {line : LogicalLine} {front back : List Char}
    (split : line.text.toList = front ++ back) :
    spanSound line.text (Text.byteLength front) line.length = true := by
  -- Both ends of the span lie between a front and a back of the text.
  have size : line.length = Text.byteLength line.text.toList := by
    rw [line.length_eq_size, Text.size_eq_byteLength]
  have first : Text.isBoundary line.text.toList (Text.byteLength front) = true := by
    rw [split]
    exact Text.isBoundary_byteLength front back
  have last : Text.isBoundary line.text.toList line.length = true := by
    have whole := Text.isBoundary_byteLength line.text.toList []
    rwa [List.append_nil, ← size] at whole
  have ordered : Text.byteLength front ≤ line.length := by
    rw [size]
    exact Text.le_byteLength_of_isBoundary first
  simp [spanSound, Text.isBoundaryOf, first, last, ordered, ← line.length_eq_size]

/-- A line as a whole is a sound span of itself. -/
theorem spanSound_whole (line : LogicalLine) : spanSound line.text 0 line.length = true :=
  -- Nothing stands in front of the whole line.
  spanSound_back (List.nil_append line.text.toList).symm

/-- The start of a received row is held. -/
theorem holds_rowStart {scene : Scene} {row : Nat} (received : row < scene.rows.size) :
    scene.holds ⟨row, 0⟩ = true := by
  -- The offset zero lies in front of the first character.
  rw [holds, Array.getElem?_eq_getElem received]
  exact Text.isBoundary_byteLength [] _

/-- A region may end at the start of a received row or of the row behind all of them. -/
theorem holdsEnd_rowStart {scene : Scene} {row : Nat} (within : row ≤ scene.rows.size) :
    scene.holdsEnd ⟨row, 0⟩ = true := by
  -- The row was received, or it is the one behind all of them.
  rcases Nat.lt_or_eq_of_le within with received | behind
  · rw [holdsEnd, holds_rowStart received]
    rfl
  · simp [holdsEnd, behind]

end Scene

end Annotator

import Annotator.Proofs.Region.Growth

/-! What a matcher gives its regions to offer is known from its hooks, whatever answers they get. -/

namespace Annotator

/-- The metadata of a region was given in a permitted form, passed the check and was then cut. -/
def Region.MadeFrom (permitted : Metadata → Prop) (region : Region) : Prop :=
  -- Which limits cut it makes no difference.
  ∃ given limits, permitted given ∧ given.validate = .ok () ∧
    region.metadata = given.limited limits

namespace Program

/-- Every region that a program asks for is to offer something permitted. -/
def Offers (permitted : Metadata → Prop) {α : Type} : Program α → Prop
  -- The program may be answered in any way at each of its steps.
  | .done _ => True
  | .tell _ next => next.Offers permitted
  | .reserve next => ∀ id, (next id).Offers permitted
  | .create _ _ metadata next => permitted metadata ∧ ∀ answer, (next answer).Offers permitted
  | .createAt _ _ metadata next => permitted metadata ∧ ∀ answer, (next answer).Offers permitted

/-- A program stores only regions that are made from what it offers. -/
theorem Offers.run_continues {permitted : Metadata → Prop} {α : Type} {program : Program α}
    (offers : program.Offers permitted) {scene : Scene} {old : RegionTable} {desk : Desk}
    (continues : desk.Continues
      (fun region => region.matcher = scene.matcher ∧ region.MadeFrom permitted) old) :
    (program.run scene desk).desk.Continues
      (fun region => region.matcher = scene.matcher ∧ region.MadeFrom permitted) old := by
  -- The induction follows the program through every answer it may be given.
  induction program generalizing desk with
  | done value => exact continues
  | tell note next ih => exact ih offers continues
  | reserve next ih => exact ih _ (offers _) continues.reserve
  | create start stop metadata next ih =>
    obtain ⟨offered, onward⟩ := offers
    refine ih _ (onward _) (continues.settle fun id made created => ?_)
    obtain ⟨line, _, _, placed⟩ := Scene.createOnLine_eq_ok created
    exact continues.placeDrawn
      (fun valid id => ⟨rfl, metadata, scene.limits, offered, valid, rfl⟩) placed
  | createAt start stop metadata next ih =>
    obtain ⟨offered, onward⟩ := offers
    refine ih _ (onward _) (continues.settle fun id made created => ?_)
    obtain ⟨_, _, _, placed⟩ := Scene.createAt_eq_ok created
    exact continues.placeDrawn
      (fun valid id => ⟨rfl, metadata, scene.limits, offered, valid, rfl⟩) placed

/-- What is permitted by a weaker condition is offered too. -/
theorem Offers.mono {permitted allowed : Metadata → Prop} {α : Type} {program : Program α}
    (offers : program.Offers permitted)
    (weaker : ∀ metadata, permitted metadata → allowed metadata) : program.Offers allowed := by
  -- Induction on the program, as the condition is asked of each creation by itself.
  induction program with
  | done value => trivial
  | tell note next ih => exact ih offers
  | reserve next ih => exact fun id => ih id (offers id)
  | create start stop metadata next ih =>
    exact ⟨weaker metadata offers.1, fun answer => ih answer (offers.2 answer)⟩
  | createAt start stop metadata next ih =>
    exact ⟨weaker metadata offers.1, fun answer => ih answer (offers.2 answer)⟩

end Program

/-- The hooks of a machine offer only what is permitted, whatever they are given. -/
structure Machine.Offers (permitted : Metadata → Prop) {σ : Type} (machine : Machine σ) :
    Prop where
  /-- What is offered on a line is permitted. -/
  line : ∀ view line state, (machine.onLine view line state).Offers permitted
  /-- What is offered at the end is permitted. -/
  finish : ∀ view totalRows state, (machine.onFinish view totalRows state).Offers permitted

/-- A machine that offers only what is permitted keeps to a weaker condition. -/
theorem Machine.Offers.mono {permitted allowed : Metadata → Prop} {σ : Type} {machine : Machine σ}
    (offers : machine.Offers permitted)
    (weaker : ∀ metadata, permitted metadata → allowed metadata) : machine.Offers allowed :=
  -- Hook by hook.
  ⟨fun view line state => (offers.line view line state).mono weaker,
    fun view totalRows state => (offers.finish view totalRows state).mono weaker⟩

namespace Matcher

variable {permitted : Metadata → Prop} {matcher : Matcher}

/-- A hook stores only regions of its own matcher that are made from what it offers. -/
theorem handle_offers {scene : Scene} {α : Type} {program : Program (Reply matcher.State α)}
    (offers : program.Offers permitted) (table : RegionTable) :
    table.Grows (fun region => region.matcher = scene.matcher ∧ region.MadeFrom permitted)
      (matcher.handle scene table program).2 :=
  -- The desk of the hook starts from the table without a reservation.
  (offers.run_continues ⟨RegionTable.Grows.refl _ table, fun id held => by simp at held⟩).table

end Matcher

end Annotator

import Annotator.Proofs.Action.WireForm
import Annotator.Proofs.Region.Numbers
import Annotator.Proofs.Text.Boundary

/-!
A creation is checked condition by condition. The first one that does not hold is reported and
nothing changes; where all of them hold, one region is added under the number that was due.
-/

namespace Annotator

/-- Something that is checked, with what is reported where it does not hold. -/
structure Condition (ε : Type) where
  /-- What is checked. -/
  holds : Prop
  /-- What is reported. -/
  error : ε

namespace Condition

variable {ε ζ α β : Type}

/-- An error is the one of the first condition that does not hold. -/
def FirstBroken (conditions : List (Condition ε)) (error : ε) : Prop :=
  -- Conditions behind the broken one are not looked at.
  ∃ early broken late, conditions = early ++ broken :: late ∧
    (∀ condition ∈ early, condition.holds) ∧ ¬broken.holds ∧ error = broken.error

/-- A condition that is reported in other words. -/
def reported (words : ε → ζ) (condition : Condition ε) : Condition ζ :=
  -- What is checked stays the same.
  { holds := condition.holds, error := words condition.error }

/-- Conditions decide an answer when they are gone through in order up to the first broken one. -/
inductive Decides : List (Condition ε) → Except ε α → Prop
  /-- Nothing is left to be checked. -/
  | passed (value : α) : Decides [] (.ok value)
  /-- The first condition does not hold. -/
  | broken (condition : Condition ε) (broken : ¬condition.holds) (rest : List (Condition ε)) :
    Decides (condition :: rest) (.error condition.error)
  /-- The first condition holds, and the others decide. -/
  | next {condition : Condition ε} {rest : List (Condition ε)} {answer : Except ε α}
    (holds : condition.holds) (onward : Decides rest answer) : Decides (condition :: rest) answer

variable {conditions : List (Condition ε)} {answer : Except ε α}

/-- An answer is given exactly when all conditions hold. -/
theorem Decides.ok_iff (decides : Decides conditions answer) :
    (∃ value, answer = .ok value) ↔ ∀ condition ∈ conditions, condition.holds := by
  -- Induction on the decision: it passes when no condition is left.
  induction decides with
  | passed value => simp
  | broken condition broken rest => simp [broken]
  | next holds onward ih => rw [ih, List.forall_mem_cons, and_iff_right holds]

/-- The first condition is broken, or it holds and the first broken one is behind it. -/
theorem firstBroken_cons {condition : Condition ε} {error : ε} :
    FirstBroken (condition :: conditions) error ↔
      ¬condition.holds ∧ error = condition.error ∨
        condition.holds ∧ FirstBroken conditions error := by
  -- Either no condition is in front of the broken one, or the first of them holds.
  constructor
  · rintro ⟨early, broken, late, split, before, broke, rfl⟩
    cases early with
    | nil =>
      obtain ⟨rfl, rfl⟩ := List.cons.inj split
      exact .inl ⟨broke, rfl⟩
    | cons first early =>
      obtain ⟨rfl, rfl⟩ := List.cons.inj split
      obtain ⟨holds, rest⟩ := List.forall_mem_cons.mp before
      exact .inr ⟨holds, early, broken, late, rfl, rest, broke, rfl⟩
  · rintro (⟨broke, rfl⟩ | ⟨holds, early, broken, late, rfl, before, broke, rfl⟩)
    · exact ⟨[], condition, conditions, rfl, by simp, broke, rfl⟩
    · exact ⟨condition :: early, broken, late, rfl, List.forall_mem_cons.mpr ⟨holds, before⟩,
        broke, rfl⟩

/-- An error is reported exactly when it is that of the first condition that does not hold. -/
theorem Decides.error_iff (decides : Decides conditions answer) (error : ε) :
    answer = .error error ↔ FirstBroken conditions error := by
  -- Induction on the decision: the first condition is broken, or it holds and the rest decide.
  induction decides with
  | passed value => simp [FirstBroken]
  | broken condition broken rest => simp [firstBroken_cons, broken, eq_comm]
  | next holds onward ih => simp [firstBroken_cons, holds, ih]

/-- Conditions of two checks in a row decide what comes of both. -/
theorem Decides.bind {late : List (Condition ε)} {second : α → Except ε β}
    (decides : Decides conditions answer) (onward : ∀ value, Decides late (second value)) :
    Decides (conditions ++ late) (answer >>= second) := by
  -- Induction on the first decision: the later conditions are asked once the early ones hold.
  induction decides with
  | passed value => exact onward value
  | broken condition broken rest => exact .broken condition broken (rest ++ late)
  | next holds _ ih => exact .next holds ih

/-- Conditions decide every answer that is given alike and reports the same in other words. -/
theorem Decides.reported {other : Except ζ β} (decides : Decides conditions answer)
    (words : ε → ζ) (passed : ∀ value, answer = .ok value → ∃ given, other = .ok given)
    (failed : ∀ error, answer = .error error → other = .error (words error)) :
    Decides (conditions.map (·.reported words)) other := by
  -- Induction on the decision: the words change, the conditions do not.
  induction decides with
  | passed value =>
    obtain ⟨given, rfl⟩ := passed value rfl
    exact .passed given
  | broken condition broken rest =>
    rw [failed _ rfl]
    exact .broken (condition.reported words) broken _
  | next holds _ ih => exact .next holds (ih passed failed)

end Condition

namespace Action

/-- What is checked of an action: that it has a name, and then its texts one by one. -/
def conditions (action : Action) : List (Condition ActionError) :=
  -- The name is the first of the texts.
  { holds := action.name ≠ "", error := .malformed "" } ::
    action.texts.map fun text =>
      { holds := fieldDelimiter ∉ text.toList ∧ itemDelimiter ∉ text.toList
        error := .reservedDelimiter action.name text }

/-- These conditions decide whether an action is valid. -/
theorem validate_decides (action : Action) :
    Condition.Decides action.conditions action.validate := by
  -- The name is checked before the texts, and those one after the other.
  unfold conditions validate
  by_cases unnamed : action.name.isEmpty = true
  · rw [if_pos unnamed]
    exact .broken _ (not_not_intro (String.isEmpty_iff.mp unnamed)) _
  · rw [if_neg unnamed]
    refine .next (fun empty => unnamed (String.isEmpty_iff.mpr empty)) ?_
    -- The texts are searched for the first one with a reserved character.
    generalize action.texts = texts
    induction texts with
    | nil => exact .passed ()
    | cons text rest ih =>
      rw [List.find?_cons]
      cases reserved : hasReserved text with
      | true =>
        refine .broken _ (fun clean => ?_) _
        rw [hasReserved_eq_false_iff_not_mem.mpr clean] at reserved
        cases reserved
      | false => exact .next (hasReserved_eq_false_iff_not_mem.mp reserved) ih

end Action

namespace Metadata

/-- What is checked of metadata: each action of it, the primary one first. -/
def conditions (metadata : Metadata) : List (Condition ActionError) :=
  -- Other parts of metadata cannot be invalid.
  metadata.actions.flatMap Action.conditions

/-- These conditions decide whether metadata is valid. -/
theorem validate_decides (metadata : Metadata) :
    Condition.Decides metadata.conditions metadata.validate := by
  -- Induction on the actions, which are checked one by one.
  unfold conditions validate
  induction metadata.actions with
  | nil => exact .passed ()
  | cons action rest ih =>
    rw [List.flatMap_cons]
    exact action.validate_decides.bind fun _ => ih

end Metadata

/-- A text may be cut at an offset when some of its characters fill the offset exactly. -/
def Text.CutsAt (text : String) (offset : Nat) : Prop :=
  -- No character is split in two.
  ∃ front back, text.toList = front ++ back ∧ Text.byteLength front = offset

/-- What an event asks for when it creates a region. -/
inductive Creation
  /-- A region over bytes of the current line. -/
  | onLine (start stop : Nat) (metadata : Metadata)
  /-- A region between two positions. -/
  | between (start stop : Position) (metadata : Metadata)

namespace Scene

/-- What comes of a creation. -/
def create (scene : Scene) (desk : Desk) : Creation → Except RegionError (RegionId × Desk)
  -- There is one way for each kind of place.
  | .onLine start stop metadata => scene.createOnLine desk start stop metadata
  | .between start stop metadata => scene.createAt desk start stop metadata

/-- The region that a creation asks for, under a number. -/
def region? (scene : Scene) (id : RegionId) : Creation → Option Region
  -- Bytes of a line stand for positions in its rows.
  | .onLine start stop metadata =>
    scene.line.map fun line =>
      scene.drawn id (line.position start) (line.position stop) metadata
  | .between start stop metadata => some (scene.drawn id start stop metadata)

/-- A position is in a row that was received, at an offset between characters. -/
def InRows (scene : Scene) (position : Position) : Prop :=
  -- The end of a row is such an offset.
  ∃ row, scene.rows[position.row]? = some row ∧ position.offset ≤ Text.size row ∧
    Text.CutsAt row position.offset

/-- What is checked of a creation, in this order. -/
def conditions (scene : Scene) : Creation → List (Condition RegionError)
  -- The place is checked before the metadata.
  | .onLine start stop metadata =>
    match scene.line with
    | none => [{ holds := False, error := .noCurrentLine }]
    | some line =>
      { holds := start ≤ stop ∧ stop ≤ Text.size line.text ∧ Text.CutsAt line.text start ∧
          Text.CutsAt line.text stop
        error := .invalidSpan start stop (Text.size line.text) } ::
      metadata.conditions.map (·.reported .invalidAction)
  | .between start stop metadata =>
    { holds := scene.InRows start
      error := .invalidRow start.row start.offset scene.rows.size } ::
    { holds := scene.InRows stop ∨ stop = ⟨scene.rows.size, 0⟩
      error := .invalidRow stop.row stop.offset scene.rows.size } ::
    { holds := start ≤ stop
      error := .invalidSpan start.offset stop.offset (scene.rowSize stop.row) } ::
    metadata.conditions.map (·.reported .invalidAction)

variable {scene : Scene} {desk next : Desk} {creation : Creation} {id : RegionId}

/-- The conditions on metadata decide whether a region is placed. -/
theorem place_decides (scene : Scene) (desk : Desk) (start stop : Position) (metadata : Metadata) :
    Condition.Decides (metadata.conditions.map (·.reported RegionError.invalidAction))
      (scene.place desk start stop metadata) := by
  -- The conditions are those of the metadata, told in other words.
  refine metadata.validate_decides.reported _ (fun value valid => ?_) fun error invalid => ?_
  · exact ⟨_, by rw [place, valid]⟩
  · rw [place, invalid]

/-- A span is sound when it is ordered, within the text and cuts it at both ends. -/
theorem spanSound_iff {text : String} {start stop : Nat} :
    spanSound text start stop = true ↔ start ≤ stop ∧ stop ≤ Text.size text ∧
      Text.CutsAt text start ∧ Text.CutsAt text stop := by
  -- The check asks for these four in one expression.
  simp [spanSound, Text.isBoundaryOf, Text.isBoundary_iff, Text.CutsAt, and_assoc]

/-- A scene holds the positions in its rows. -/
theorem holds_iff_inRows {position : Position} :
    scene.holds position = true ↔ scene.InRows position := by
  -- There is such a row or not, and in it the position lies on a boundary or not.
  unfold holds InRows
  cases scene.rows[position.row]? with
  | none => simp
  | some row =>
    simp only [Option.some.injEq, exists_eq_left']
    constructor
    · intro bounded
      -- A boundary is never behind the end of its text.
      have within := Text.le_byteLength_of_isBoundary bounded
      rw [← Text.size_eq_byteLength] at within
      exact ⟨within, Text.isBoundary_iff.mp bounded⟩
    · exact fun inside => Text.isBoundary_iff.mpr inside.2

/-- These conditions decide what comes of a creation. -/
theorem create_decides (scene : Scene) (desk : Desk) (creation : Creation) :
    Condition.Decides (scene.conditions creation) (scene.create desk creation) := by
  -- The checks are asked one by one, in the order of the source of the creation.
  cases creation with
  | onLine start stop metadata =>
    unfold create conditions createOnLine
    dsimp only
    cases scene.line with
    -- Outside a line nothing is asked further.
    | none => exact .broken _ not_false []
    | some line =>
      dsimp only
      by_cases sound : spanSound line.text start stop = true
      · rw [if_pos sound]
        exact .next (spanSound_iff.mp sound) (scene.place_decides desk _ _ metadata)
      · rw [if_neg sound]
        exact .broken _ (mt spanSound_iff.mpr sound) _
  | between start stop metadata =>
    unfold create conditions createAt
    dsimp only
    by_cases started : scene.holds start = true
    · rw [if_neg (by simp [started])]
      refine .next (holds_iff_inRows.mp started) ?_
      -- The end may also lie right behind the last row.
      have ended : scene.holdsEnd stop = true ↔
          scene.InRows stop ∨ stop = ⟨scene.rows.size, 0⟩ := by
        simp [holdsEnd, holds_iff_inRows]
      by_cases held : scene.holdsEnd stop = true
      · rw [if_neg (by simp [held])]
        refine .next (ended.mp held) ?_
        by_cases ordered : start ≤ stop
        · rw [if_pos ordered]
          exact .next ordered (scene.place_decides desk _ _ metadata)
        · rw [if_neg ordered]
          exact .broken _ ordered _
      · rw [if_pos (by simpa using held)]
        exact .broken _ (mt ended.mpr held) _
    · rw [if_pos (by simpa using started)]
      exact .broken _ (mt holds_iff_inRows.mpr started) _

/-- A creation that succeeds places the region that it asks for. -/
theorem create_eq_ok (created : scene.create desk creation = .ok (id, next)) :
    ∃ region, scene.region? id creation = some region ∧ id = desk.claim.1 ∧
      next = ⟨desk.claim.2.table.insert region, none⟩ := by
  -- An accepted creation has passed its checks and was placed.
  cases creation with
  | onLine start stop metadata =>
    obtain ⟨line, current, _, placed⟩ := createOnLine_eq_ok created
    obtain ⟨_, due, left⟩ := place_eq_ok_iff.mp placed
    exact ⟨_, by rw [region?, current]; rfl, due, left⟩
  | between start stop metadata =>
    obtain ⟨_, _, _, placed⟩ := createAt_eq_ok created
    obtain ⟨_, due, left⟩ := place_eq_ok_iff.mp placed
    exact ⟨_, rfl, due, left⟩

end Scene

/-- The deed of a creation. -/
def Creation.deed : Creation → Deed
  -- The two ways to create are two deeds.
  | .onLine start stop metadata => .create start stop metadata
  | .between start stop metadata => .createAt start stop metadata

namespace Workplace

variable {place next : Workplace} {deed : Deed} {receipt : Receipt} {id : RegionId}

/-- Within an event, the deed of a creation is answered as the creation is. -/
theorem perform_deed {scene : Scene} (busy : place.scene = some scene) (creation : Creation) :
    place.perform creation.deed =
      let settled := place.desk.settle (scene.create place.desk creation)
      (.answered settled.1, { place with desk := settled.2 }) := by
  -- A deed inside an event is settled from what the creation answers.
  cases creation <;> simp [Creation.deed, perform, busy, Scene.create]

/-- What is told about deeds, one after the other. -/
def receipts (place : Workplace) : List Deed → List Receipt
  -- Each deed finds what the one before it left.
  | [] => []
  | deed :: later => (place.perform deed).1 :: (place.perform deed).2.receipts later

/-- What is due in an event stays due over a step that makes no region, and is what is reserved. -/
theorem Step.still_due (step : Step place deed receipt next) (within : deed.leaves = false)
    (unmade : receipt.created? = none) :
    next.desk.claim.1 = place.desk.claim.1 ∧ next.regions = place.regions ∧
      ∀ id, receipt = .reserved id → id = place.desk.claim.1 := by
  -- A reservation only holds back the number that is due, and a rejection changes nothing.
  cases step with
  | entered scene => cases within
  | idle _ _ => exact ⟨rfl, rfl, fun id told => by cases told⟩
  | reserved =>
    obtain ⟨_, due, _, listed, _⟩ := reserve_spec place.desk
    refine ⟨due, listed, fun id told => ?_⟩
    cases told
    rfl
  | removed _ outside _ _ => rw [within] at outside; cases outside
  | created _ creation =>
    cases creation with
    | rejected error => exact ⟨rfl, rfl, fun id told => by cases told⟩
    | added region due => cases unmade

/-- What is due in an event stays due until a region is made, and is what is reserved meanwhile. -/
theorem still_due_after {deeds : List Deed} (within : ∀ deed ∈ deeds, deed.leaves = false)
    (unmade : place.numbers deeds = []) :
    (place.after deeds).desk.claim.1 = place.desk.claim.1 ∧
      (place.after deeds).regions = place.regions ∧
      ∀ id, .reserved id ∈ place.receipts deeds → id = place.desk.claim.1 := by
  -- Induction on the deeds, each of which leaves the number due and the regions as they are.
  induction deeds generalizing place with
  | nil => exact ⟨rfl, rfl, fun id told => by cases told⟩
  | cons deed later ih =>
    obtain ⟨now, onward⟩ := List.forall_mem_cons.mp within
    obtain ⟨nothing, nothingLater⟩ := List.append_eq_nil_iff.mp unmade
    have made : (place.perform deed).1.created? = none := Option.toList_eq_nil_iff.mp nothing
    have step := place.perform_step deed
    obtain ⟨due, listed, reserved⟩ := step.still_due now made
    obtain ⟨dueLater, listedLater, told⟩ := ih onward nothingLater
    refine ⟨dueLater.trans due, listedLater.trans listed, fun id member => ?_⟩
    rcases List.mem_cons.mp member with first | rest
    · exact reserved id first.symm
    · exact (told id rest).trans due

end Workplace

open Workplace in
/--
A creation succeeds exactly if all its conditions hold, and otherwise reports the first one that
does not and changes nothing. What succeeds adds one region under the number that was due, which is
the one that the event was told whenever it asked.
-/
theorem creation_gate :
    (∀ (scene : Scene) (desk : Desk) (creation : Creation),
      let settled := desk.settle (scene.create desk creation)
      ((∃ id, settled.1 = .ok id) ↔
          ∀ condition ∈ scene.conditions creation, condition.holds) ∧
        (∀ error, settled.1 = .error error ↔
          Condition.FirstBroken (scene.conditions creation) error) ∧
        (∀ error, settled.1 = .error error → settled.2 = desk) ∧
        ∀ id, settled.1 = .ok id → ∃ region, scene.region? id creation = some region ∧
          settled.2.table.regions = desk.table.regions ++ [region] ∧
          settled.2.reserved = none ∧
          -- A reservation is used up, and otherwise the next number is.
          (∀ held, desk.reserved = some held →
            id = held ∧ settled.2.table.nextId = desk.table.nextId) ∧
          (desk.reserved = none →
            id = ⟨desk.table.nextId⟩ ∧ settled.2.table.nextId = desk.table.nextId + 1)) ∧
    -- The number of a region that is added is that of no other one.
    (∀ (deeds : List Deed) (scene : Scene), (reached deeds).scene = some scene →
      ∀ creation id, ((reached deeds).perform creation.deed).1.created? = some id →
        ∃ region, scene.region? id creation = some region ∧
          (reached (deeds ++ [creation.deed])).regions = (reached deeds).regions ++ [region] ∧
          (reached (deeds ++ [creation.deed])).regions = file region (reached deeds).regions ∧
          ∀ other ∈ (reached deeds).regions, other.id ≠ id) ∧
    -- Until a region is made, an event is told one number, and the next region is given it.
    ∀ (place : Workplace) (deeds : List Deed), (∀ deed ∈ deeds, deed.leaves = false) →
      place.numbers deeds = [] →
        (place.after deeds).regions = place.regions ∧
          (∀ id, .reserved id ∈ place.receipts deeds → id = place.desk.claim.1) ∧
          ∀ deed id, ((place.after deeds).perform deed).1.created? = some id →
            id = place.desk.claim.1 := by
  -- The parts are about one request, about one deed anywhere in the work, and about an event.
  refine ⟨fun scene desk creation => ?_, fun deeds scene busy creation id made => ?_,
    fun place deeds within unmade => ?_⟩
  · have decides := scene.create_decides desk creation
    rw [← decides.ok_iff]
    simp only [← decides.error_iff]
    cases result : scene.create desk creation with
    | error error => simp [Desk.settle]
    | ok made =>
      obtain ⟨id, next⟩ := made
      obtain ⟨region, asked, rfl, rfl⟩ := Scene.create_eq_ok result
      refine ⟨by simp [Desk.settle], by simp [Desk.settle], by simp [Desk.settle], ?_⟩
      rintro _ ⟨⟩
      refine ⟨region, asked, congrArg (· ++ [region]) (claim_spec desk).1, rfl, ?_, ?_⟩
      · intro held standing
        simp [Desk.settle, Desk.claim, standing, RegionTable.insert]
      · intro free
        simp [Desk.settle, Desk.claim, free, RegionTable.allocate, RegionTable.insert]
  · have split : reached (deeds ++ [creation.deed]) = ((reached deeds).perform creation.deed).2 :=
      after_append {} deeds [creation.deed]
    obtain ⟨region, rfl, listed, filed, others⟩ :=
      ((reached deeds).perform_step creation.deed).made (ordered_reached deeds) made
    refine ⟨region, ?_, split ▸ listed, split ▸ filed, others⟩
    -- The region that was added is the one that was asked for.
    rw [perform_deed busy] at made listed
    dsimp only at made listed
    cases result : scene.create (reached deeds).desk creation with
    | error error =>
      rw [result] at made
      cases made
    | ok given =>
      obtain ⟨id, next⟩ := given
      rw [result] at made listed
      obtain ⟨drawn, asked, _, rfl⟩ := Scene.create_eq_ok result
      have added : (reached deeds).regions ++ [drawn] = (reached deeds).regions ++ [region] :=
        (congrArg (· ++ [drawn]) (claim_spec (reached deeds).desk).1.symm).trans listed
      obtain rfl := List.singleton_inj.mp (List.append_cancel_left added)
      cases made
      exact asked
  · obtain ⟨due, listed, told⟩ := still_due_after within unmade
    refine ⟨listed, told, fun deed id made => ?_⟩
    exact (((place.after deeds).perform_step deed).added made).1.trans due

open Workplace in
/-- A span that splits a character is reported, and the reservation outlives three rejections. -/
theorem creation_gate_reserved :
    let line : LogicalLine := { startRow := 0, first := "hé" }
    let scene : Scene := { (default : Scene) with rows := #["hé"], line := some line }
    let bad : Metadata := { primaryAction := some { name := "A", args := [.value "x|y"] } }
    let place := reached [.enter scene, .reserve]
    let between : List Deed :=
      [.create 2 3 bad, .reserve, .createAt ⟨0, 3⟩ ⟨1, 1⟩ bad, .create 0 1 bad]
    scene.create place.desk (.onLine 2 3 bad) = .error (.invalidSpan 2 3 3) ∧
      Condition.FirstBroken (scene.conditions (.onLine 2 3 bad)) (.invalidSpan 2 3 3) ∧
      place.numbers between = [] ∧
      ((place.after between).perform (.create 0 1 {})).1.created? = some ⟨1⟩ ∧
      place.desk.claim.1 = ⟨1⟩ ∧
      ∀ id, .reserved id ∈ place.receipts between → id = ⟨1⟩ := by
  -- The span cuts through a character, so the first condition of the creation is broken.
  intro line scene bad place between
  have unsound : Scene.spanSound line.text 2 3 = false := by decide +kernel
  have size : Text.size line.text = 3 := by decide +kernel
  have rejected : scene.create place.desk (.onLine 2 3 bad) = .error (.invalidSpan 2 3 3) := by
    change (if Scene.spanSound line.text 2 3 = true then _ else
      Except.error (RegionError.invalidSpan 2 3 (Text.size line.text))) = _
    rw [unsound, size]
    rfl
  have within : ∀ deed ∈ between, deed.leaves = false := by simp [between, Deed.leaves]
  have unmade : place.numbers between = [] := by decide +kernel
  have due : place.desk.claim.1 = ⟨1⟩ := by decide +kernel
  have settled : (place.desk.settle (scene.create place.desk (.onLine 2 3 bad))).1 =
      .error (.invalidSpan 2 3 3) := by rw [rejected]; rfl
  have gate := creation_gate.1 scene place.desk (.onLine 2 3 bad)
  refine ⟨rejected, (gate.2.1 _).mp settled, unmade, by decide +kernel, due, ?_⟩
  intro id told
  exact ((creation_gate.2.2 place between within unmade).2.1 id told).trans due

end Annotator

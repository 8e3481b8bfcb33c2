import Annotator.Proofs.Output.Assembly
import Annotator.Proofs.Region.Gate

/-!
A region over bytes of a line can be created between the positions of these bytes instead: the rows
of a received line hold the positions of all its character boundaries, in the same order.
-/

namespace Annotator

/-- A line that was completed from rows is still found in them when more rows have arrived. -/
theorem LineBuffer.received_of_fed {feeds : List Feed} {line : LogicalLine} {rows : Array String}
    (member : line ∈ (fed feeds).1) (arrived : feeds.filterMap Feed.text? <+: rows.toList) :
    line.ReceivedIn rows := by
  -- The rows of a line are a slice of those that were fed, and these came first.
  have covers := fed_covers feeds
  obtain ⟨-, slice⟩ := covers.consecutive.rows_eq (List.mem_append_left _ member)
  rw [covers.rows, Nat.sub_zero] at slice
  obtain ⟨later, grown⟩ := arrived
  intro place row taken
  -- Where the row stands in the line tells where it stands among the first rows.
  have within : place < line.endRow + 1 - line.startRow := by
    have short := (List.getElem?_eq_some_iff.mp taken).1
    rw [slice, List.length_take] at short
    omega
  rw [slice, List.getElem?_take, if_pos within, List.getElem?_drop] at taken
  rw [← Array.getElem?_toList, ← grown]
  exact List.getElem?_append_left (List.getElem?_eq_some_iff.mp taken).1 ▸ taken

namespace Scene

variable {scene : Scene} {line : LogicalLine} {start stop : Nat}

/-- Boundaries of a received line have positions in the rows of the scene. -/
theorem holds_position (received : line.ReceivedIn scene.rows) {offset : Nat}
    (bounded : Text.isBoundaryOf line.text offset = true) :
    scene.holds (line.position offset) = true := by
  -- The row of the position was received, and a boundary of the line is one of the row.
  obtain ⟨row, found, boundary⟩ := LogicalLine.position_received received bounded
  rw [holds, found]
  exact boundary

/-- A sound span of the current line is placed between the positions of its ends. -/
theorem createOnLine_of_sound (desk : Desk) (metadata : Metadata) (current : scene.line = some line)
    (sound : spanSound line.text start stop = true) :
    scene.createOnLine desk start stop metadata =
      scene.place desk (line.position start) (line.position stop) metadata := by
  -- The scene has the line, and the span passes its check.
  simp only [createOnLine, current, if_pos sound]

/-- The positions of the ends of a sound span of a received line are accepted. -/
theorem createAt_of_sound (desk : Desk) (metadata : Metadata)
    (received : line.ReceivedIn scene.rows) (sound : spanSound line.text start stop = true) :
    scene.createAt desk (line.position start) (line.position stop) metadata =
      scene.place desk (line.position start) (line.position stop) metadata := by
  -- What the span check asks of the offsets is what the positions need in the rows.
  simp only [spanSound, Bool.and_eq_true, decide_eq_true_eq] at sound
  obtain ⟨⟨⟨ordered, -⟩, starts⟩, stops⟩ := sound
  have started := holds_position received starts
  have stopped : scene.holdsEnd (line.position stop) = true := by
    rw [holdsEnd, holds_position received stops, Bool.true_or]
  rw [createAt, started, stopped, if_neg (by simp), if_neg (by simp),
    if_pos (line.position_mono ordered)]

/-- Where placing fails, an action of the metadata is at fault. -/
theorem place_eq_error_iff {desk : Desk} {start stop : Position} {metadata : Metadata}
    {error : RegionError} : scene.place desk start stop metadata = .error error ↔
      ∃ fault, metadata.validate = .error fault ∧ error = .invalidAction fault := by
  -- The check of the metadata is the one thing that may fail.
  unfold place
  cases metadata.validate with
  | error fault => simp [eq_comm]
  | ok done => simp

end Scene

open LineBuffer in
/--
On a line that was completed from the rows of a scene, both ways to create a region agree on every
sound span: the answer and the desk left behind are the same, and only metadata is ever at fault.
-/
theorem creations_agree (feeds : List Feed) (line : LogicalLine) (member : line ∈ (fed feeds).1)
    (scene : Scene) (arrived : feeds.filterMap Feed.text? <+: scene.rows.toList)
    (current : scene.line = some line) (start stop : Nat)
    (sound : Scene.spanSound line.text start stop = true) (metadata : Metadata) :
    let onLine : Creation := .onLine start stop metadata
    let between : Creation := .between (line.position start) (line.position stop) metadata
    (∀ desk, scene.create desk between = scene.create desk onLine ∧
      ∀ error, scene.create desk between = .error error ↔
        ∃ fault, metadata.validate = .error fault ∧ error = .invalidAction fault) ∧
    -- A matcher cannot tell which of the two ways it took.
    ∀ place : Workplace, place.scene = some scene →
      place.perform between.deed = place.perform onLine.deed := by
  -- Both ways come down to the same region, since the positions are those of the span.
  intro onLine between
  have received := received_of_fed member arrived
  have alike (desk : Desk) : scene.create desk between = scene.create desk onLine :=
    (Scene.createAt_of_sound desk metadata received sound).trans
      (Scene.createOnLine_of_sound desk metadata current sound).symm
  refine ⟨fun desk => ⟨alike desk, fun error => ?_⟩, fun place busy => ?_⟩
  · have accepted : scene.create desk between = _ :=
      Scene.createAt_of_sound desk metadata received sound
    rw [accepted, Scene.place_eq_error_iff]
  · rw [Workplace.perform_deed busy, Workplace.perform_deed busy, alike]

open LineBuffer in
/-- From a character of the first row to the break behind an empty row, while a later row waits. -/
theorem creations_agree_wrapped :
    let line : LogicalLine := { startRow := 0, first := "hé", rest := ["", "x"] }
    let scene : Scene :=
      { (default : Scene) with rows := #["hé", "", "x", "y"], line := some line }
    let desk : Desk := { table := default, reserved := some ⟨7⟩ }
    line.position 1 = ⟨0, 1⟩ ∧ line.position 3 = ⟨2, 0⟩ ∧
      scene.create desk (.between ⟨0, 1⟩ ⟨2, 0⟩ {}) = scene.create desk (.onLine 1 3 {}) := by
  -- The line is cut inside a word and has an empty row, so the offsets fall into the first and
  -- last.
  intro line scene desk
  have starts : line.position 1 = ⟨0, 1⟩ := by decide +kernel
  have stops : line.position 3 = ⟨2, 0⟩ := by decide +kernel
  have agree := creations_agree [.row "hé" true, .row "" true, .row "x" false] line
    (by decide +kernel) scene (by decide +kernel) rfl 1 3 (by decide +kernel) {}
  dsimp only at agree
  rw [starts, stops] at agree
  exact ⟨starts, stops, (agree.1 desk).1⟩

end Annotator

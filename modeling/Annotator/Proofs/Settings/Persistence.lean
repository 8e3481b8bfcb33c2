import Annotator.CommandLine.Run
import Annotator.Proofs.Files.Saving
import Annotator.Proofs.Settings.Reading

/-!
Settings that were saved are loaded again if they are valid, also from a text in which fields are
missing that hold their defaults.
-/

namespace Annotator

/-! ## Work that touches files -/

namespace Work

/-- Further work is carried out where the work before it ends. -/
theorem run_bind {α β : Type} (work : Work α) (follow : α → Work β) (around : Surroundings) :
    (work.bind follow).run around = (follow (work.run around).1).run (work.run around).2 := by
  -- Induction on the work that comes first, as each step hands on what it leaves.
  induction work generalizing around with
  | done value => rfl
  | print text next ih => exact ih _
  | complain text next ih => exact ih _
  | probe path next ih => exact ih _ _
  | read path next ih => exact ih _ _
  | readInput next ih => exact ih _ _
  | save path text next ih =>
    simp only [bind, run]
    cases around.files.save path text.toUTF8 <;> exact ih _ _

/-- Complaints change no file. -/
theorem files_complainEach (texts : List String) (around : Surroundings) :
    ((complainEach texts).run around).2.files = around.files := by
  -- Induction on the texts, as complaining does not touch files.
  induction texts generalizing around with
  | nil => rfl
  | cons text rest ih => exact ih _

/-- Notices change no file. -/
theorem files_notify {level : LogLevel} {severity : Severity} {origin message : String}
    (around : Surroundings) :
    ((notify level severity origin message).run around).2.files = around.files :=
  -- Notices are complaints, or nothing at all.
  files_complainEach _ around

end Work

namespace Run

variable {level : LogLevel} {path : String} {settings : Settings} {around after : Surroundings}

/-- What is loaded depends on what is read from the path alone. -/
theorem loadFrom_result (level : LogLevel) (path : String) (around : Surroundings) :
    ((loadFrom level path).run around).1 =
      match around.files.read path with
      | .error error => .error (.unavailable error.message)
      | .ok bytes => Settings.ofBytes bytes := by
  -- The notice in front does not touch the files that are read.
  show (Work.run (Work.bind _ _) around).1 = _
  rw [Work.run_bind]
  simp only [bind, Work.bind, Work.run, Work.files_notify]
  cases around.files.read path <;> rfl

/-- Settings that were saved are stored as their text. -/
theorem files_of_saveTo (saved : (saveTo path settings).run around = (.ok (), after)) :
    around.files.save path settings.text.toUTF8 = .ok after.files := by
  -- The work ends well only if the text was stored.
  simp only [saveTo, bind, Work.bind, Work.run] at saved
  cases stored : around.files.save path settings.text.toUTF8 with
  | error error =>
    rw [stored] at saved
    cases saved
  | ok files =>
    rw [stored] at saved
    obtain ⟨-, rfl⟩ := Prod.mk.inj saved
    rfl

end Run

/-! ## Texts -/

namespace Document

/-- A document is read from a text if the node that the text stands for shows it. -/
def isReadFrom (document : Document) (text : String) : Bool :=
  -- A text without a document stands for nothing at all.
  match YamlNode.read? text with
  | .error _ => false
  | .ok node => (node.getD (.scalar true "")).shows document

end Document

namespace Settings

variable {settings : Settings} {omitted : List String → Bool} {text : String}

/-- The bytes of a text stand for it. -/
theorem ofBytes_toUTF8 (text : String) : ofBytes text.toUTF8 = ofText text := by
  -- The bytes of a text are valid, so the text is read back.
  have valid : text.toUTF8.IsValidUTF8 := text.isValidUTF8
  rw [ofBytes, String.fromUTF8?, dif_pos valid]
  rfl

/-- Settings of a text are those of its document, after they were checked. -/
theorem ofText_without
    (sized : settings.limits.tooltipChars ≤ YamlNode.largestNumber ∧
      settings.limits.menuEntries ≤ YamlNode.largestNumber)
    (only : settings.document.OmitsOnly defaultPart? omitted)
    (reads : (settings.document.without omitted).isReadFrom text = true) :
    ofText text =
      match settings.validate with
      | .error defect => .error (.invalid defect)
      | .ok () => .ok settings := by
  -- The text is parsed to a node that shows the document, and the settings are read off it.
  unfold ofText
  unfold Document.isReadFrom at reads
  cases parsed : YamlNode.read? text with
  | error error => simp [parsed] at reads
  | ok node =>
    simp only [parsed] at reads
    have read := ofNode_without sized only reads
    have understood : ofDocument node = .ok settings := by
      cases node <;> exact read
    cases checked : settings.validate <;> simp only [accept, understood, checked]

/-- Nothing at all stands for the settings that hold by default. -/
example : ofText "" = .ok {} := by
  decide

end Settings

/-! ## Saving and loading -/

/--
Settings that were saved to a path are loaded from it if they are valid, and refused if not.

The text that is written is taken to be read back as the document that it was written from, and
numbers to fit into a machine word. Any fields may be missing from the text that are what they are
by default, inside of a section or with it, and those of a matcher inside of its entry.
-/
theorem saved_settings_return {path : String} {settings : Settings} {around after : Surroundings}
    (sized : settings.limits.tooltipChars ≤ YamlNode.largestNumber ∧
      settings.limits.menuEntries ≤ YamlNode.largestNumber)
    (faithful : settings.document.isReadFrom settings.text = true)
    (saved : (Run.saveTo path settings).run around = (.ok (), after)) (level : LogLevel) :
    (settings.validate = .ok () →
      ((Run.loadFrom level path).run after).1 = .ok settings) ∧
    (∀ defect, settings.validate = .error defect →
      ((Run.loadFrom level path).run after).1 = .error (.invalid defect)) ∧
    ∀ (omitted : List String → Bool) (shortened : String) (later : Surroundings),
      settings.document.OmitsOnly Settings.defaultPart? omitted →
      (settings.document.without omitted).isReadFrom shortened = true →
      later.files.read path = .ok shortened.toUTF8 →
        ((Run.loadFrom level path).run later).1 = ((Run.loadFrom level path).run after).1 := by
  -- Reading any text that shows what was written gives the settings or the defect in them.
  have loaded : ∀ {omitted : List String → Bool} {text : String} {later : Surroundings},
      settings.document.OmitsOnly Settings.defaultPart? omitted →
      (settings.document.without omitted).isReadFrom text = true →
      later.files.read path = .ok text.toUTF8 →
        ((Run.loadFrom level path).run later).1 =
          match settings.validate with
          | .error defect => .error (.invalid defect)
          | .ok () => .ok settings := by
    intro omitted text later only reads stored
    rw [Run.loadFrom_result, stored]
    exact (Settings.ofBytes_toUTF8 text).trans (Settings.ofText_without sized only reads)
  -- What was written lacks nothing.
  have nothing : settings.document.OmitsOnly Settings.defaultPart? fun _ => false := by
    rintro path part ⟨⟩
  have written : (settings.document.without fun _ => false).isReadFrom settings.text = true := by
    rw [Document.without_nothing]
    exact faithful
  have whole := loaded nothing written (FileTree.read_save (Run.files_of_saveTo saved))
  refine ⟨fun valid => ?_, fun defect invalid => ?_, ?_⟩
  · rw [whole, valid]
  · rw [whole, invalid]
  · intro omitted shortened later only reads stored
    exact (loaded only reads stored).trans whole.symm

/-- A cap and an alias are loaded again, also when every other setting is left to its default. -/
theorem saved_settings_return_tuned :
    let settings : Settings :=
      { limits := { tooltipChars := 40 }
        matchers := .ofList [("docker-ps", { aliases := ["dps"] })] }
    let shortened :=
      "limits:\n  tooltip_max_chars: 40\nmatchers:\n  docker-ps:\n    aliases: [dps]\n"
    let after := ((Run.saveTo "a/b.yaml" settings).run {}).2
    let later : Surroundings := { files := { files := [(["a", "b.yaml"], shortened.toUTF8)] } }
    ((Run.loadFrom .off "a/b.yaml").run after).1 = .ok settings ∧
      ((Run.loadFrom .off "a/b.yaml").run later).1 = .ok settings := by
  -- What is left out of the shortened text is what the defaults say in any case.
  intro settings shortened after later
  have sized : settings.limits.tooltipChars ≤ YamlNode.largestNumber ∧
      settings.limits.menuEntries ≤ YamlNode.largestNumber := by decide
  have faithful : settings.document.isReadFrom settings.text = true := by decide +kernel
  have saved : (Run.saveTo "a/b.yaml" settings).run {} = (.ok (), after) :=
    Prod.ext (by decide +kernel) rfl
  obtain ⟨valid, -, fewer⟩ := saved_settings_return sized faithful saved .off
  have loaded := valid (by decide)
  let paths := [["log_level"], ["tracker"], ["limits", "menu_max_entries"],
    ["matchers", "docker-ps", "enabled"], ["make"]]
  have only : settings.document.OmitsOnly Settings.defaultPart? paths.contains := by
    intro path part gone here
    have listed : path ∈ paths := List.contains_iff_mem.mp gone
    simp only [paths, List.mem_cons, List.not_mem_nil, or_false] at listed
    rcases listed with rfl | rfl | rfl | rfl | rfl <;> exact here
  have reads : (settings.document.without paths.contains).isReadFrom shortened = true := by
    decide +kernel
  exact ⟨loaded, (fewer paths.contains shortened later only reads rfl).trans loaded⟩

end Annotator

import Annotator.Proofs.Action.Reserved
import Annotator.Proofs.Hook.Faultless
import Annotator.Proofs.Text.Padding
import Annotator.WorkTree.Status

/-! The status matcher is faultless, as directories are checked first and files on their lines. -/

namespace Annotator

namespace FileLine

/-- A text that is a name as a whole is that name. -/
theorem wholeName?_eq_some {text name : List Char} (found : wholeName? text = some name) :
    name = text := by
  -- The text is either rejected or given back whole.
  unfold wholeName? at found
  split at found
  · simp at found
  · exact (Option.some.inj found).symm

/-- A name behind an arrow stands at the end of its text. -/
theorem renamedName?_suffix {text name : List Char} (found : renamedName? text = some name) :
    name <:+ text := by
  -- Either nothing stands behind the first word or an arrow and the name do.
  unfold renamedName? at found
  dsimp only at found
  split at found
  · simp at found
  · split at found
    · -- Nothing stands behind the name, so it is the whole text.
      rename_i bare
      have whole : text.takeWhile (fun c => !isBlank c) ++ text.dropWhile (fun c => !isBlank c) =
          text := List.takeWhile_append_dropWhile
      rw [List.isEmpty_iff.mp bare, List.append_nil] at whole
      obtain rfl : text = name := whole.symm.trans (Option.some.inj found)
      exact List.suffix_refl text
    · split at found
      · -- The name follows the arrow, and what stands in front was dropped.
        rw [wholeName?_eq_some found]
        exact (List.drop_suffix _ _).trans (List.dropWhile_suffix _)
      · simp at found

/-- A name behind a status stands at the end of its text. -/
theorem statusName?_suffix {text name : List Char} (found : statusName? text = some name) :
    name <:+ text := by
  -- The name is what is left after cutting at the front, again and again.
  unfold statusName? at found
  dsimp only at found
  split at found
  · exact (renamedName?_suffix found).trans ((List.dropWhile_suffix _).trans
      ((List.drop_suffix _ _).trans (List.dropWhile_suffix _)))
  · simp at found

/-- The file name of a file line stands at its end. -/
theorem name?_suffix {line name : List Char} (found : name? line = some name) :
    name <:+ line := by
  -- The name is what is left after cutting at the front, with a status or without.
  unfold name? at found
  split at found
  · split at found
    · rename_i whole
      rw [← Option.some.inj found, wholeName?_eq_some whole]
      exact List.drop_suffix _ _
    · exact (statusName?_suffix found).trans (List.drop_suffix _ _)
  · simp at found

end FileLine

namespace WorkTree

/-- A file is read only under a clean name that stands at the end of its line. -/
theorem read_file {current : Option Section} {line : List Char} {part : Section}
    {name : List Char} (reading : read current line = .file part name) :
    hasReserved (String.ofList name) = false ∧ ∃ front, line = front ++ name := by
  -- Only the last branch of the reading gives a file.
  unfold read at reading
  split at reading
  · simp at reading
  · split at reading
    · rename_i named
      split at reading
      · simp at reading
      · rename_i clean
        cases reading
        obtain ⟨front, split⟩ := FileLine.name?_suffix named
        exact ⟨by simpa using clean, front, split.symm⟩
    · simp at reading

/-- A file name is never longer than the line it is read from. -/
theorem byteLength_le_of_read_file {current : Option Section} {line : LogicalLine}
    {part : Section} {name : List Char}
    (reading : read current line.text.toList = .file part name) :
    Text.byteLength name ≤ line.length ∧
      Scene.spanSound line.text (line.length - Text.byteLength name) line.length = true := by
  -- The name ends the line, so it begins where the front ends.
  obtain ⟨_, front, split⟩ := read_file reading
  have size : line.length = Text.byteLength front + Text.byteLength name := by
    rw [line.length_eq_size, Text.size_eq_byteLength, split, Text.byteLength_append]
  have start : line.length - Text.byteLength name = Text.byteLength front := by omega
  exact ⟨by omega, start ▸ Scene.spanSound_back split⟩

/-- What is offered for a file is valid when its name, the directory and the server are clean. -/
theorem validate_describeFile {site : Site} (server : hasReserved site.server = false)
    (directory : hasReserved site.baseDir = false) (part : Section) {file : String}
    (named : hasReserved file = false) : (describeFile site part file).validate = .ok () := by
  -- Part by part: the server, the directory and the name are clean, and so is the path of both.
  have path : hasReserved (filePath site file) = false := by
    rw [filePath, hasReserved_append, directory, named]
    rfl
  have opens : (openAction site file).validate = .ok () := by
    rw [Action.validate_eq_ok_iff]
    simp +decide [openAction, Action.texts, Argument.texts, server, path]
  rw [Metadata.validate_eq_ok_iff_parts]
  cases part <;>
    simp +decide [describeFile, fileEntries, directoryEntries, gitAction, opens, server, directory,
      named]

/-- The status machine is faultless on a clean server and in a clean directory. -/
theorem machine_faultless {site : Site} (server : hasReserved site.server = false)
    (directory : hasReserved site.baseDir = false) : (machine site).Faultless where
  start invocation current := ⟨_, rfl⟩
  line scene line current held := by
    unfold machine
    dsimp only
    -- Only a file asks for a region, over its name at the end of the line.
    cases reading : read current line.text.toList with
    | heading part => exact ⟨_, rfl⟩
    | other => exact ⟨_, rfl⟩
    | file part name =>
      refine ⟨⟨line, held, (byteLength_le_of_read_file reading).2⟩, ?_, fun id => ⟨_, rfl⟩⟩
      exact validate_describeFile server directory part (read_file reading).1
  finish scene totalRows current := rfl

/-- The directory is checked before the status matcher attaches. -/
theorem hasReserved_baseDir {settings : MatcherSettings} {invocation : Invocation}
    (accepted : (factory settings).accepts (Registry.siteOf invocation).command
      invocation.workingDir = .ok true) :
    hasReserved (Registry.siteOf invocation).baseDir = false := by
  -- The matcher attaches only in a clean directory, and closing it adds a slash at most.
  have checked : StatusCommand.accepts settings (Registry.siteOf invocation).command
      invocation.workingDir = true := Except.ok.inj accepted
  unfold StatusCommand.accepts at checked
  simp only [Bool.and_eq_true, Bool.not_eq_true'] at checked
  exact (Site.hasReserved_closeDir invocation.workingDir).trans checked.1.2

/-- The factory of the status matcher is faultless. -/
theorem factory_faultless (settings : MatcherSettings) : (factory settings).Faultless where
  -- What is accepted has a clean directory.
  accepts _ _ := ⟨_, rfl⟩
  create _ clean accepted :=
    ⟨_, _, rfl, machine_faultless clean.server (hasReserved_baseDir accepted)⟩

end WorkTree

end Annotator

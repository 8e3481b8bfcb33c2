import Annotator.Action.Command
import Annotator.Listing.Basic
import Annotator.WorkTree.Command
import Annotator.WorkTree.FileLine
import Annotator.WorkTree.Section

/-! The status matcher marks the files of each section and offers what can be done with them. -/

namespace Annotator

namespace WorkTree

/-- An action that runs git in the directory of a site. -/
def gitAction (site : Site) (arguments : List String) : Action :=
  -- The directory follows the program line.
  (Action.background site.server "git" arguments).withValue site.baseDir

/-- The path of a file of the work tree. -/
def filePath (site : Site) (file : String) : String :=
  -- Names in the status are relative to the directory.
  site.baseDir ++ file

/-- The action that opens a file. -/
def openAction (site : Site) (file : String) : Action :=
  -- The launcher in front of the server is left empty.
  { name := "OpenFile"
    args := [.value "", .value site.server, .value (filePath site file)] }

/-- The entries about one file, which depend on its section. -/
def fileEntries (site : Site) (part : Section) (file : String) : List MenuEntry :=
  -- Discarding changes asks for confirmation.
  match part with
  | .staged =>
    [.ofAction (gitAction site ["reset", "--", file]) "Reset File" "remove-item"
        "Remove this file from the index in git",
      .separator]
  | .modified | .conflicted | .untracked =>
    [.ofAction (gitAction site ["add", "--", file]) "Add File" "insert-item"
        "Add this file to the index",
      .ofAction (gitAction site ["checkout", "--", file]) "Checkout File" "clean"
        "Discard unstaged changes to this file",
      .confirm ("This will permanently discard unstaged changes to " ++ file ++ ". Proceed?"),
      .separator]
  | .ignored => []

/-- The entries about the whole directory. -/
def directoryEntries (site : Site) : List MenuEntry :=
  -- Discarding changes asks for confirmation.
  [.ofAction (gitAction site ["add", "--", "."]) "Add Directory" "insert-item"
      "Add all changes in this directory to the index",
    .ofAction (gitAction site ["reset", "--", "."]) "Reset Directory" "remove-item"
      "Remove all changes in this directory from the index",
    .separator,
    .ofAction (gitAction site ["checkout", "--", "."]) "Checkout Directory" "clean"
      "Discard all unstaged changes in this directory",
    .confirm ("This will permanently discard all unstaged changes in " ++ site.baseDir ++
      ". Proceed?"),
    .ofAction (gitAction site ["reset", "--hard"]) "Reset Hard" "destroy"
      "Discard all staged and unstaged changes",
    .confirm "This will permanently discard ALL uncommitted changes. Proceed?"]

/-- What a region offers for a file of a section. -/
def describeFile (site : Site) (part : Section) (file : String) : Metadata :=
  -- The address of the file is shown and can be dragged.
  let uri := site.fileUri (filePath site file)
  { icon := some (if part = .ignored then "file" else "git")
    tooltip := some uri
    primaryAction := some (openAction site file)
    drag := .ofList [("text/uri-list", uri), ("text/plain", uri)]
    menu := .mergeSubmenu uri "Git" :: fileEntries site part file ++ directoryEntries site }

/-- What a line means in the status of a work tree. -/
inductive StatusReading
  /-- A section begins. -/
  | heading (part : Section)
  /-- A file of the current section. -/
  | file (part : Section) (name : List Char)
  /-- Nothing of interest. -/
  | other
  deriving DecidableEq, Repr

/-- The meaning of a line depends on the section it stands in. -/
def read (current : Option Section) (line : List Char) : StatusReading :=
  -- Files before the first heading and names with reserved characters are passed over.
  match Section.ofHeading? line with
  | some part => .heading part
  | none =>
    match current, FileLine.name? line with
    | some part, some name =>
      if hasReserved (String.ofList name) then .other else .file part name
    | _, _ => .other

/-- The status matcher marks the file name at the end of a file line. -/
def machine (site : Site) : Machine (Option Section) where
  onStart invocation current := ([], ⟨current, .ok invocation.mayHaveSucceeded⟩)
  onLine _ line current :=
    match read current line.text.toList with
    | .heading part => .done ⟨some part, .ok .proceed⟩
    | .other => .done ⟨current, .ok .proceed⟩
    | .file part name =>
      .create (line.length - Text.byteLength name) line.length
        (describeFile site part (String.ofList name)) fun answer =>
        match answer with
        | .ok _ => .done ⟨current, .ok .proceed⟩
        | .error error => .done ⟨current, .error (.rejected error)⟩
  onFinish _ _ current := .done ⟨current, .ok ()⟩

/-- The name of the status matcher. -/
def matcherName : String :=
  -- The name is part of the output and of the settings.
  "git-status"

/-- The factory of the status matcher. -/
def factory (settings : MatcherSettings) : Factory where
  name := matcherName
  fast := settings.fastOr false
  finishPolicy := settings.finishPolicyOr .activeOnly
  accepts command workingDir := .ok (StatusCommand.accepts settings command workingDir)
  create site :=
    ([], .ok { State := Option Section, machine := machine site, state := none })

end WorkTree

end Annotator

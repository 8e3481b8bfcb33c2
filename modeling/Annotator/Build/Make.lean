import Annotator.Action.Command
import Annotator.Build.Diagnostic
import Annotator.Hook.Matcher
import Annotator.Settings.Basic

/-! The build matcher marks compiler reports and offers a way back to the first error. -/

namespace Annotator

namespace Make

/-- What the build matcher remembers. -/
structure Progress where
  /-- The region of the first error. -/
  firstError : Option RegionId := none
  /-- The last row of the most recent report. -/
  lastRow : Nat := 0
  deriving DecidableEq, Repr, Inhabited

namespace Progress

/-- A report that was marked is remembered. -/
def record (progress : Progress) (kind : DiagnosticKind) (id : RegionId) (row : Nat) :
    Progress :=
  -- Only the first error is kept.
  { firstError :=
      if kind = .error then progress.firstError.or (some id) else progress.firstError
    lastRow := row }

end Progress

/-- The entry that copies a report. -/
def copyEntry (site : Site) (id : RegionId) : MenuEntry :=
  -- The report is known by its region.
  .ofAction
    { name := "CopySemantic"
      args := [.value (toString id.number), .value site.terminal] }
    "&Copy Message" "copy" "Copy this diagnostic message to the clipboard"

/-- The action that opens a file at a place. -/
def openAction (site : Site) (launcher path : String) (place : SourcePlace) : Action :=
  -- A missing column stands for the first one.
  { name := "OpenFile"
    args :=
      [.value launcher, .value site.server, .value path,
        .list ["l=" ++ String.ofList place.line,
          "c=" ++ String.ofList (place.column.getD ['1'])]] }

/-- What a region offers for a report about a place. -/
def describeLocated (site : Site) (launcher : String) (id : RegionId) (kind : DiagnosticKind)
    (path : String) (place : SourcePlace) : Metadata :=
  -- The file can be opened and dragged, and the report copied.
  let uri := site.fileUri path
  { icon := some kind.icon
    tooltip := some ("Double-click to open the file using launcher \"" ++ launcher ++ "\"")
    primaryAction := some (openAction site launcher path place)
    drag := .ofList [("text/uri-list", uri), ("text/plain", uri)]
    menu :=
      [.mergeSubmenu uri ("Build " ++ kind.word),
        .ofAction (openAction site launcher path place) "Launch &Editor" "edit-item"
          ("Open the file at this location using launcher \"" ++ launcher ++ "\""),
        copyEntry site id] }

/-- What a region offers for a report without a place. -/
def describeBare (site : Site) (id : RegionId) (kind : DiagnosticKind) : Metadata :=
  -- The report can only be copied.
  { icon := some kind.icon, menu := [copyEntry site id] }

/-- What a region offers that leads back to the first error. -/
def describeJump (firstError : RegionId) : Metadata :=
  -- Some rows above the error are shown too.
  { icon := some "go-up"
    tooltip := some "Double-click to scroll up to first error"
    primaryAction := some
      { name := "ScrollSemanticRelative"
        args := [.value (toString firstError.number), .value "-10"] } }

/-- The rest of a line's work offers the way back on a line that announces waiting. -/
def offerJump (line : LogicalLine) (progress : Progress) : Program (Reply Progress Flow) :=
  -- There is nothing to go back to before the first error.
  match progress.firstError with
  | some firstError =>
    if Diagnostic.announcesWaiting line.text.toList then
      .create 0 line.length (describeJump firstError) fun answer =>
        match answer with
        | .ok _ => .done ⟨progress, .ok .proceed⟩
        | .error error => .done ⟨progress, .error (.rejected error)⟩
    else .done ⟨progress, .ok .proceed⟩
  | none => .done ⟨progress, .ok .proceed⟩

/-- The work on a line depends on what it reports. -/
def onLine (site : Site) (launcher : String) (line : LogicalLine) (progress : Progress) :
    Program (Reply Progress Flow) :=
  -- A report about a place is all that is made of its line.
  match Diagnostic.ofLine? line.text.toList with
  | none => offerJump line progress
  | some (.located kind place) =>
    let path := site.resolvePath (String.ofList place.path)
    if hasReserved path then .done ⟨progress, .ok .proceed⟩
    else
      .reserve fun id =>
        .create 0 line.length (describeLocated site launcher id kind path place) fun answer =>
          match answer with
          | .ok _ => .done ⟨progress.record kind id line.endRow, .ok .proceed⟩
          | .error error => .done ⟨progress, .error (.rejected error)⟩
  | some (.bare kind start) =>
    .reserve fun id =>
      .create start line.length (describeBare site id kind) fun answer =>
        match answer with
        | .ok _ => offerJump line (progress.record kind id line.endRow)
        | .error error => .done ⟨progress, .error (.rejected error)⟩

/-- At the end the way back is offered on the last row, unless a report reaches it. -/
def onFinish (view : View) (totalRows : Nat) (progress : Progress) :
    Program (Reply Progress Unit) :=
  -- Rows that were never received do not count.
  let rows := min totalRows view.rowCount
  match progress.firstError with
  | some firstError =>
    if progress.lastRow + 1 < rows then
      .createAt ⟨rows - 1, 0⟩ ⟨rows, 0⟩ (describeJump firstError) fun answer =>
        match answer with
        | .ok _ => .done ⟨progress, .ok ()⟩
        | .error error => .done ⟨progress, .error (.rejected error)⟩
    else .done ⟨progress, .ok ()⟩
  | none => .done ⟨progress, .ok ()⟩

/-- The build matcher takes every line of every invocation it attaches to. -/
def machine (site : Site) (launcher : String) : Machine Progress where
  onStart _ progress := ([], ⟨progress, .ok true⟩)
  onLine _ line progress := onLine site launcher line progress
  onFinish := onFinish

/-- The name of the build matcher. -/
def matcherName : String :=
  -- The name is part of the output and of the settings.
  "make"

/-- A command is a build when its first word is one of the command words. -/
def recognizes (make : MakeSettings) (command : String) : Bool :=
  -- A blank command counts as an empty first word.
  make.commands.any fun word => word.toList == (Text.words command.toList).headD []

/-- The factory of the build matcher, which takes lines as they arrive. -/
def factory (settings : MatcherSettings) (make : MakeSettings) : Factory where
  name := matcherName
  fast := settings.fastOr true
  finishPolicy := settings.finishPolicyOr .activeOnly
  accepts command _ := .ok (recognizes make command || settings.isAlias command)
  create site :=
    ([], .ok
      { State := Progress, machine := machine site make.editorLauncher, state := {} })

end Make

end Annotator

import Annotator.Text.Digit
import Annotator.Text.Blank
import Annotator.Text.Search

/-! Compilers report errors, warnings and notes, with or without the place they are about. -/

namespace Annotator

/-- How serious a compiler's report is. -/
inductive DiagnosticKind
  /-- Compilation fails. -/
  | error
  /-- Something is suspicious. -/
  | warning
  /-- Something is added to another report. -/
  | note
  deriving DecidableEq, Repr, Inhabited

namespace DiagnosticKind

/-- The icon of a kind. -/
def icon : DiagnosticKind → String
  -- Icons are named like their kinds.
  | .error => "error"
  | .warning => "warning"
  | .note => "note"

/-- The word for a kind in labels. -/
def word : DiagnosticKind → String
  -- Labels begin with a capital.
  | .error => "Error"
  | .warning => "Warning"
  | .note => "Note"

/-- The phrases that announce a report with a place. -/
def locatedPhrases : DiagnosticKind → List String
  -- Every phrase ends in a space, except for the one that ends its line.
  | .error =>
    ["error: ", "fatal error: ", "undefined reference to ", "sorry, unimplemented: "]
  | .warning => ["warning: "]
  | .note => ["note: "]

/-- The phrases that announce a report without a place. -/
def barePhrases : DiagnosticKind → List String
  -- Notes without a place are not reported.
  | .error => ["error: ", "undefined reference to ", "sorry, unimplemented: "]
  | .warning => ["warning: "]
  | .note => []

/-- A text announces a kind when it starts with one of its phrases. -/
def announcedBy (kind : DiagnosticKind) (text : List Char) : Bool :=
  -- A note may also say where a template was required, behind any number of spaces.
  (kind.locatedPhrases.any fun phrase => Text.startsWith phrase.toList text) ||
    (kind == .note &&
      Text.startsWith "required from here".toList (text.dropWhile (· == ' ')))

end DiagnosticKind

/-- A place in a source file, as a report writes it. -/
structure SourcePlace where
  /-- The path of the file. -/
  path : List Char
  /-- The digits of the line. -/
  line : List Char
  /-- The digits of the column, if it is given. -/
  column : Option (List Char)
  deriving DecidableEq, Repr

namespace SourcePlace

/-- A nonempty run of digits closed by a colon, and what follows it. -/
def number? (text : List Char) : Option (List Char × List Char) :=
  -- Digits of every script count.
  let digits := text.takeWhile isDecimalDigit
  match digits, text.dropWhile isDecimalDigit with
  | _ :: _, ':' :: rest => some (digits, rest)
  | _, _ => none

/-- The line and column behind a path, followed by a space and a text that is announced. -/
def numbers? (kind : DiagnosticKind) (text : List Char) :
    Option (List Char × Option (List Char)) :=
  -- The column may be missing.
  match text with
  | ':' :: rest =>
    match number? rest with
    | none => none
    | some (line, behind) =>
      let (column, last) := match number? behind with
        | some (digits, further) => (some digits, further)
        | none => (none, behind)
      match last with
      | ' ' :: announced => if kind.announcedBy announced then some (line, column) else none
      | _ => none
  | _ => none

/-- A place is sought behind ever longer paths, whose characters so far are kept in reverse. -/
def search? (kind : DiagnosticKind) : List Char → List Char → Option SourcePlace
  -- A path is nonempty and has no white space.
  | _, [] => none
  | path, c :: rest =>
    let found := if path.isEmpty then none else numbers? kind (c :: rest)
    match found with
    | some (line, column) => some { path := path.reverse, line, column }
    | none => if isBlank c then none else search? kind (c :: path) rest

end SourcePlace

/-- What a line reports. -/
inductive Diagnostic
  /-- A report about a place. -/
  | located (kind : DiagnosticKind) (place : SourcePlace)
  /-- A report without a place, from a byte offset on. -/
  | bare (kind : DiagnosticKind) (start : Nat)
  deriving DecidableEq, Repr

namespace Diagnostic

/-- The report about a place at the start of a line, under the shortest path that allows one. -/
def located? (line : List Char) : Option Diagnostic :=
  -- Errors are sought before warnings and warnings before notes.
  [DiagnosticKind.error, .warning, .note].findSome? fun kind =>
    (SourcePlace.search? kind [] line).map (.located kind)

/-- The report without a place anywhere in a line. -/
def bare? (line : List Char) : Option Diagnostic :=
  -- An error wins over a warning, wherever the two stand.
  [DiagnosticKind.error, .warning].findSome? fun kind =>
    (Text.firstOffset? (kind.barePhrases.map String.toList) line).map (.bare kind)

/-- What a line reports, where a place is preferred. -/
def ofLine? (line : List Char) : Option Diagnostic :=
  -- The bare form is sought only when there is no place.
  (located? line).or (bare? line)

/-- A build is waiting when a line ends in the announcement of it, with any number of dots. -/
def announcesWaiting (line : List Char) : Bool :=
  -- White space stands in front of the announcement.
  let back := line.reverse.dropWhile (· == '.')
  let phrase := "Waiting for unfinished jobs".toList.reverse
  Text.startsWith phrase back && Text.startsBlank (back.drop phrase.length)

end Diagnostic

end Annotator

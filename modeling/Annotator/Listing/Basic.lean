import Annotator.Hook.Matcher
import Annotator.Settings.Basic
import Annotator.Text.Search

/-! A listing is a table whose header begins with a known word and whose rows name one object. -/

namespace Annotator

namespace Invocation

/-- An invocation may have succeeded unless its exit code is known and not zero. -/
def mayHaveSucceeded (invocation : Invocation) : Bool :=
  -- An unknown exit code does not speak against success.
  invocation.exitCode.all (· == 0)

end Invocation

/-- Which word of a row names its object. -/
inductive Column
  /-- The word at a place counted from zero. -/
  | index (place : Nat)
  /-- The last word. -/
  | last
  /-- The first word of a row that does not start blank. -/
  | leading
  deriving DecidableEq, Repr

namespace Column

/-- The word that a column selects from a row. -/
def pick? (column : Column) (row : List Char) : Option (List Char) :=
  -- Words are separated by white space.
  match column with
  | .index place => (Text.words row)[place]?
  | .last => (Text.words row).getLast?
  | .leading => if Text.startsBlank row then none else (Text.words row).head?

end Column

/-- The form of a listing. -/
structure ListingFormat where
  /-- The first word of the header. -/
  header : String
  /-- The word that names the object of a row. -/
  column : Column
  /-- An empty line ends the table. -/
  stopOnBlank : Bool := false
  deriving DecidableEq, Repr

/-- How much of a listing has been read. -/
inductive ListingPhase
  /-- The header has not come yet. -/
  | awaitingHeader
  /-- The header has come. -/
  | rows
  deriving DecidableEq, Repr, Inhabited

namespace ListingPhase

/-- The name of a phase. -/
def label : ListingPhase → String
  -- The names are part of the output.
  | .awaitingHeader => "AwaitingHeader"
  | .rows => "Rows"

end ListingPhase

/-- What a line means in a listing. -/
inductive ListingReading
  /-- The table ends here. -/
  | endOfTable
  /-- The header of a table. -/
  | header
  /-- A row that names an object. -/
  | row (name : String)
  /-- Nothing of interest. -/
  | other
  deriving DecidableEq, Repr

namespace ListingFormat

/-- The key of a line is its first word, but a leading column ignores lines that start blank. -/
def key? (format : ListingFormat) (line : List Char) : Option (List Char) :=
  -- Such lines continue the row above them.
  if format.column == .leading && Text.startsBlank line then none else (Text.words line).head?

/-- The object that a row names, if its name may enter an action. -/
def object? (format : ListingFormat) (line : List Char) : Option String :=
  -- Names with reserved characters are passed over.
  ((format.column.pick? line).map String.ofList).filter fun name => !hasReserved name

/-- The meaning of a line depends on whether the header has come. -/
def read (format : ListingFormat) (phase : ListingPhase) (line : String) : ListingReading :=
  -- The header may be repeated and is never a row.
  if format.stopOnBlank && line.isEmpty then .endOfTable
  else match format.key? line.toList with
    | none => .other
    | some key =>
      if key == format.header.toList then .header
      else if phase == .awaitingHeader then .other
      else match format.object? line.toList with
        | some name => .row name
        | none => .other

end ListingFormat

/-- A kind of listing and what is offered for its objects. -/
structure Listing where
  /-- The name of its matcher. -/
  name : String
  /-- Its form. -/
  format : ListingFormat
  /-- Whether a command line produces it. -/
  recognizes : String → Bool
  /-- What a region offers for a named object. -/
  describe : Site → String → Metadata

namespace Listing

/-- A listing matcher marks the whole line of every row. -/
def machine (listing : Listing) (site : Site) : Machine ListingPhase where
  onStart invocation phase := ([], ⟨phase, .ok invocation.mayHaveSucceeded⟩)
  onLine _ line phase :=
    match listing.format.read phase line.text with
    | .endOfTable => .done ⟨phase, .ok .stop⟩
    | .header => .done ⟨.rows, .ok .proceed⟩
    | .other => .done ⟨phase, .ok .proceed⟩
    | .row name =>
      .create 0 line.length (listing.describe site name) fun answer =>
        match answer with
        | .ok _ => .done ⟨phase, .ok .proceed⟩
        | .error error => .done ⟨phase, .error (.rejected error)⟩
  onFinish _ _ phase := .done ⟨phase, .ok ()⟩

/-- The factory of a listing attaches to its own commands and to aliases. -/
def factory (listing : Listing) (settings : MatcherSettings) : Factory where
  name := listing.name
  fast := settings.fastOr false
  finishPolicy := settings.finishPolicyOr .activeOnly
  accepts command _ := .ok (listing.recognizes command || settings.isAlias command)
  create site :=
    ([], .ok { State := ListingPhase, machine := listing.machine site, state := .awaitingHeader })

end Listing

end Annotator

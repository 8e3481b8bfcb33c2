import Annotator.Text.Blank
import Annotator.Text.Search
import Annotator.Text.WordChar

/-! A file line is indented by eight spaces and ends in a file name, possibly behind a status. -/

namespace Annotator

namespace FileLine

/-- A status consists of word characters and spaces. -/
def isStatusChar (c : Char) : Bool :=
  -- The colon behind it is no part of it.
  isWordChar c || c == ' '

/-- The file name when a text is nothing but one. -/
def wholeName? (text : List Char) : Option (List Char) :=
  -- A name is nonempty and has no white space.
  if text.isEmpty || text.any isBlank then none else some text

/-- The file name behind an optional former name and an arrow. -/
def renamedName? (text : List Char) : Option (List Char) :=
  -- Without an arrow the text must be a name as it stands.
  let former := text.takeWhile fun c => !isBlank c
  let rest := text.dropWhile fun c => !isBlank c
  if former.isEmpty then none
  else if rest.isEmpty then some former
  else if Text.startsWith " -> ".toList rest then wholeName? (rest.drop 4)
  else none

/-- The file name behind a status. -/
def statusName? (text : List Char) : Option (List Char) :=
  -- A colon and at least three spaces separate the two.
  let status := text.takeWhile isStatusChar
  let rest := text.dropWhile isStatusChar
  if !status.isEmpty && Text.startsWith ":   ".toList rest then
    renamedName? ((rest.drop 4).dropWhile (· == ' '))
  else none

/-- The file name at the end of a file line. -/
def name? (line : List Char) : Option (List Char) :=
  -- The name may follow the indentation at once.
  if Text.startsWith "        ".toList line then
    match wholeName? (line.drop 8) with
    | some name => some name
    | none => statusName? (line.drop 8)
  else none

end FileLine

end Annotator

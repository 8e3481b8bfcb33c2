import Annotator.Yaml.Text

/-! A cursor stands before a character of a document and knows its line and column. -/

namespace Annotator.Yaml

/-- A place in a document. -/
structure Cursor where
  /-- The characters from here on. -/
  rest : List Char
  /-- The number of bytes that the characters before it take up. -/
  index : Nat := 0
  /-- The number of its line. -/
  line : Nat := 0
  /-- The number of characters before it on its line. -/
  column : Nat := 0
  deriving Repr, Inhabited

namespace Cursor

/-- Passing over one character enters the next line behind a break. -/
def next (cursor : Cursor) : Cursor :=
  -- At the end nothing changes.
  match cursor.rest with
  | [] => cursor
  | c :: rest =>
    let index := cursor.index + c.utf8Size
    if isBreak c then { rest, index, line := cursor.line + 1, column := 0 }
    else { rest, index, line := cursor.line, column := cursor.column + 1 }

/-- Passing over a number of characters. -/
def skip (cursor : Cursor) : Nat → Cursor
  -- Each character counts once.
  | 0 => cursor
  | count + 1 => cursor.next.skip count

/-- Passing over the longest run of characters of a kind. -/
def skipWhile (cursor : Cursor) (kind : Char → Bool) : Cursor :=
  -- The run may be empty.
  cursor.skip (cursor.rest.takeWhile kind).length

/-- Moving on to a later part of the same document. -/
def moveTo (cursor : Cursor) (rest : List Char) : Cursor :=
  -- The characters between the two are passed over.
  cursor.skip (cursor.rest.length - rest.length)

/-- The next character is a given one. -/
def startsWith (cursor : Cursor) (c : Char) : Bool :=
  -- The end starts with no character.
  cursor.rest.head? == some c

/-- Nothing is left. -/
def atEnd (cursor : Cursor) : Bool :=
  -- The end comes behind the last character.
  cursor.rest.isEmpty

/-- A document marker stands here. -/
def atMarker (cursor : Cursor) : Bool :=
  -- Markers stand at the start of a line.
  cursor.column == 0 && startsAnyMarker cursor.rest

end Cursor

end Annotator.Yaml

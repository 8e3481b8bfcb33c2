/-! Reports are written as JSON with one member a line, indented by two spaces for each level. -/

namespace Annotator

/-- A JSON value without fractions. -/
inductive JsonValue
  /-- A natural number. -/
  | number (value : Nat)
  /-- A text. -/
  | text (value : String)
  /-- An array. -/
  | array (items : List JsonValue)
  /-- An object whose members keep their order. -/
  | object (members : List (String × JsonValue))
  deriving Inhabited

namespace JsonValue

/-- A hexadecimal digit in lower case. -/
def hexDigit (value : Nat) : Char :=
  -- The argument is taken modulo sixteen.
  (Nat.digitChar (value % 16))

/-- The written form of one character of a text. -/
def escapedChar (c : Char) : List Char :=
  -- Only quotes, backslashes and control characters are escaped.
  if c == '"' then ['\\', '"']
  else if c == '\\' then ['\\', '\\']
  else if c == '\n' then ['\\', 'n']
  else if c == '\r' then ['\\', 'r']
  else if c == '\t' then ['\\', 't']
  else if c == '\x08' then ['\\', 'b']
  else if c == '\x0c' then ['\\', 'f']
  else if c.toNat < 0x20 then
    ['\\', 'u', '0', '0', hexDigit (c.toNat / 16), hexDigit c.toNat]
  else [c]

/-- The written form of a text. -/
def quotedText (text : String) : List Char :=
  -- Each character is escaped on its own.
  '"' :: text.toList.flatMap escapedChar ++ ['"']

/-- A line break followed by the indentation of a level. -/
def lineBreak (level : Nat) : List Char :=
  -- Each level takes two spaces.
  '\n' :: List.replicate (2 * level) ' '

/-- Items between two brackets, each on a line of its own. -/
def bracketed (opening closing : Char) (level : Nat) (items : List (List Char)) : List Char :=
  -- Nothing stands between the brackets when there are no items.
  if items.isEmpty then [opening, closing]
  else
    opening ::
      [','].intercalate (items.map (lineBreak (level + 1) ++ ·)) ++ lineBreak level ++ [closing]

mutual

/-- The written form of a value at a level. -/
def written (level : Nat) : JsonValue → List Char
  -- Parts of a value are one level deeper.
  | .number value => (toString value).toList
  | .text value => quotedText value
  | .array items => bracketed '[' ']' level (writtenItems (level + 1) items)
  | .object members => bracketed '\x7b' '\x7d' level (writtenMembers (level + 1) members)

/-- The written forms of the items of an array. -/
def writtenItems (level : Nat) : List JsonValue → List (List Char)
  -- The order is kept.
  | [] => []
  | item :: rest => written level item :: writtenItems level rest

/-- The written forms of the members of an object. -/
def writtenMembers (level : Nat) : List (String × JsonValue) → List (List Char)
  -- A name and its value are separated by a colon and a space.
  | [] => []
  | (name, value) :: rest =>
    (quotedText name ++ ':' :: ' ' :: written level value) :: writtenMembers level rest

end

/-- The written form of a whole value. -/
def pretty (value : JsonValue) : String :=
  -- A whole value is not indented.
  String.ofList (value.written 0)

/-- A member that is left out when it has no value. -/
def optional (name : String) (value : Option JsonValue) : List (String × JsonValue) :=
  -- Absent members do not appear as null.
  (value.map (name, ·)).toList

end JsonValue

end Annotator

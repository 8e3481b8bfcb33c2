import Annotator.Text.Bytes
import Annotator.Yaml.Document
import Annotator.Yaml.Plain

/-! Documents are written with one scalar a line, indented by two spaces for each level. -/

namespace Annotator.Yaml

/-! ## Styles of scalars -/

/-- Characters that may be written as they are. -/
def isPrintable (c : Char) : Bool :=
  -- Tabs and carriage returns are written as escapes.
  let n := c.toNat
  n == 0x0A || (0x20 ≤ n && n ≤ 0x7E) || (0xA0 ≤ n && n ≤ 0xD7FF) ||
    (0xE000 ≤ n && n ≤ 0xFFFD && n != 0xFEFF) || 0x10000 ≤ n

/-- A character of some kind is followed by one of another kind. -/
def hasPair (first second : Char → Bool) : List Char → Bool
  -- Neighbours are compared all along the text.
  | c :: d :: rest => (first c && second d) || hasPair first second (d :: rest)
  | _ => false

/-- A space as opposed to a tab. -/
def isSpace (c : Char) : Bool :=
  -- Tabs are never written as they are.
  c == ' '

/-- The front of a text would be taken for an indicator or a marker. -/
def startsIndicator (text : List Char) : Bool :=
  -- Some indicators count only where they end a word.
  match text with
  | [] => false
  | c :: rest =>
    "#,[]\x7b\x7d&*!|>'\"%@\x60".toList.contains c ||
      ((c == '?' || c == ':' || c == '-') && endsWord rest) ||
      "---".toList.isPrefixOf text || "...".toList.isPrefixOf text

/-- A colon that ends a word, or a number sign that begins one, occurs behind the front. -/
def hasInnerIndicator : List Char → Bool
  -- The character in front tells whether a word begins.
  | [] => false
  | c :: rest =>
    match rest with
    | [] => false
    | d :: behind =>
      (d == ':' && endsWord behind) || (d == '#' && isGapOrBreak c) || hasInnerIndicator rest

/-- A text that may be written between single quotes. -/
def allowsSingle (text : List Char) : Bool :=
  -- Spaces next to line breaks would be lost.
  text.all isPrintable && !hasPair isSpace isBreak text && !hasPair isBreak isSpace text

/-- A text that may be written plainly. -/
def allowsPlain (text : List Char) : Bool :=
  -- It must be one line that neither begins nor ends with a space.
  text.all isPrintable && !text.any isBreak && !text.head?.any isSpace &&
    !text.getLast?.any isSpace && !startsIndicator text && !hasInnerIndicator text

/-- A text that may be written as a block of lines. -/
def allowsBlock (text : List Char) : Bool :=
  -- A space at the end of a line would be hard to see.
  text.all isPrintable && !text.getLast?.any isSpace && !hasPair isSpace isBreak text

/-! ## Forms of scalars -/

/-- A number in upper-case hexadecimal with leading zeros. -/
def hexadecimal (width value : Nat) : List Char :=
  -- The width is never exceeded by the numbers that are written.
  let digits := (Nat.toDigits 16 value).map Char.toUpper
  List.replicate (width - digits.length) '0' ++ digits

/-- The escape of a character between double quotes. -/
def escaped (c : Char) : List Char :=
  -- Well-known characters have short escapes, others are given by their code point.
  match c with
  | '\x00' => ['\\', '0']
  | '\x07' => ['\\', 'a']
  | '\x08' => ['\\', 'b']
  | '\t' => ['\\', 't']
  | '\n' => ['\\', 'n']
  | '\x0b' => ['\\', 'v']
  | '\x0c' => ['\\', 'f']
  | '\r' => ['\\', 'r']
  | '\x1b' => ['\\', 'e']
  | '"' => ['\\', '"']
  | '\\' => ['\\', '\\']
  | '\x85' => ['\\', 'N']
  | '\xa0' => ['\\', '_']
  | '\u2028' => ['\\', 'L']
  | '\u2029' => ['\\', 'P']
  | c =>
    if c.toNat ≤ 0xFF then '\\' :: 'x' :: hexadecimal 2 c.toNat
    else if c.toNat ≤ 0xFFFF then '\\' :: 'u' :: hexadecimal 4 c.toNat
    else '\\' :: 'U' :: hexadecimal 8 c.toNat

/-- A text between double quotes. -/
def doubleQuoted (text : List Char) : List Char :=
  -- Line breaks are escaped too.
  '"' :: text.flatMap (fun c =>
    if isPrintable c && !isBreak c && c != '"' && c != '\\' then [c] else escaped c) ++ ['"']

/-- A run of spaces. -/
def spaces (count : Nat) : List Char :=
  -- Indentation consists of nothing else.
  List.replicate count ' '

/-- The characters of a text between single quotes, where lines are indented. -/
def singleQuotedFrom (indent : Nat) (afterBreak : Bool) : List Char → List Char
  -- A quote is doubled.
  | [] => if afterBreak then spaces indent else []
  | c :: rest =>
    if isBreak c then c :: singleQuotedFrom indent true rest
    else
      (if afterBreak then spaces indent else []) ++ (if c == '\'' then ['\'', '\''] else [c]) ++
        singleQuotedFrom indent false rest

/-- A text between single quotes. -/
def singleQuoted (indent : Nat) (text : List Char) : List Char :=
  -- Only the Unicode separators break lines here.
  '\'' :: singleQuotedFrom indent false text ++ ['\'']

/-- The lines of a block, indented unless they are empty. -/
def blockLines (indent : Nat) (afterBreak : Bool) : List Char → List Char
  -- Breaks are written as they are.
  | [] => []
  | c :: rest =>
    if isBreak c then c :: blockLines indent true rest
    else (if afterBreak then spaces indent else []) ++ c :: blockLines indent false rest

/-- The sign that tells how the end of a block is to be treated. -/
def chompingSign (text : List Char) : List Char :=
  -- One break at the end needs no sign.
  match text.reverse with
  | [] => ['-']
  | c :: rest =>
    if !isBreak c then ['-']
    else match rest with
      | [] => ['+']
      | d :: _ => if isBreak d then ['+'] else []

/-- A text as a block of lines. -/
def block (indent : Nat) (text : List Char) : List Char :=
  -- The indentation is given when the first line would hide it.
  let width := if text.head?.any (fun c => isSpace c || isBreak c) then ['2'] else []
  '|' :: width ++ chompingSign text ++ '\n' :: blockLines indent true text

/-- A text in the plainest form that reads back as the same text. -/
def scalar (isKey : Bool) (indent : Nat) (text : List Char) : List Char :=
  -- A text of several lines is a block unless it is a key on one line.
  if text.contains '\n' then
    if allowsBlock text && !isKey then block indent text else doubleQuoted text
  else if !Plain.needsQuotes text && allowsPlain text then text
  else if allowsSingle text then singleQuoted indent text
  else doubleQuoted text

/-! ## Collections -/

/-- A part that ends its line. -/
def closed (part : List Char) : List Char :=
  -- A block may have ended its line itself.
  if part.getLast?.any isBreak then part else part ++ ['\n']

/-- A key that may stand on one line with its colon. -/
def isSimpleKey (key : String) : Bool :=
  -- Long keys and keys with line breaks of any kind are announced.
  !(key.toList.any fun c => isBreak c || c == '\r' || c == '\x85') && Text.size key ≤ 128

/-- The key of a field up to and with its colon. -/
def keyPart (indent : Nat) (key : String) : List Char :=
  -- An announced key is followed by a line that begins with the colon.
  if isSimpleKey key then scalar true (indent + 2) key.toList ++ [':']
  else closed ('?' :: ' ' :: scalar false (indent + 2) key.toList) ++ spaces indent ++ [':']

/-- A collection that follows on lines of its own, or at once behind an announced key. -/
def nested (indent : Nat) (lines : List (List Char)) : List Char :=
  -- The first line needs no indentation when it follows at once.
  (lines.map fun line => spaces indent ++ line).flatten

/-- Lines that follow at once behind what stands on the first of them. -/
def inlineFirst (indent : Nat) (lines : List (List Char)) : List Char :=
  -- All but the first are indented.
  match lines with
  | [] => []
  | first :: rest => first ++ nested indent rest

mutual

/-- What stands behind the dash of an item. -/
def itemPart (indent : Nat) : Document → List Char
  -- Collections begin on the same line.
  | .text value => closed (scalar false (indent + 2) value.toList)
  | .flag value => (Document.flagText value).toList ++ ['\n']
  | .number value => (toString value).toList ++ ['\n']
  | .list [] => ['[', ']', '\n']
  | .record [] => ['\x7b', '\x7d', '\n']
  | .list items => inlineFirst (indent + 2) (itemLines (indent + 2) items)
  | .record fields => inlineFirst (indent + 2) (fieldLines (indent + 2) fields)

/-- The lines of the items of a list. -/
def itemLines (indent : Nat) : List Document → List (List Char)
  -- Each item begins with a dash.
  | [] => []
  | item :: rest => ('-' :: ' ' :: itemPart indent item) :: itemLines indent rest

/-- What stands behind the colon of a field. -/
def valuePart (indent : Nat) (simple : Bool) : Document → List Char
  -- Collections begin on a line of their own behind a simple key.
  | .text value => ' ' :: closed (scalar false (indent + 2) value.toList)
  | .flag value => ' ' :: (Document.flagText value).toList ++ ['\n']
  | .number value => ' ' :: (toString value).toList ++ ['\n']
  | .list [] => [' ', '[', ']', '\n']
  | .record [] => [' ', '\x7b', '\x7d', '\n']
  | .list items =>
    if simple then '\n' :: nested indent (itemLines indent items)
    else ' ' :: inlineFirst (indent + 2) (itemLines (indent + 2) items)
  | .record fields =>
    if simple then '\n' :: nested (indent + 2) (fieldLines (indent + 2) fields)
    else ' ' :: inlineFirst (indent + 2) (fieldLines (indent + 2) fields)

/-- The lines of the fields of a record. -/
def fieldLines (indent : Nat) : List (String × Document) → List (List Char)
  -- Each field begins with its key.
  | [] => []
  | (key, value) :: rest =>
    (keyPart indent key ++ valuePart indent (isSimpleKey key) value) :: fieldLines indent rest

end

end Annotator.Yaml

namespace Annotator.Document

/-- The written form of a document. -/
def write (document : Document) : String :=
  -- The outermost collection is not indented.
  String.ofList <|
    match document with
    | .record (field :: rest) => Yaml.nested 0 (Yaml.fieldLines 0 (field :: rest))
    | .list (item :: rest) => Yaml.nested 0 (Yaml.itemLines 0 (item :: rest))
    | other => (Yaml.valuePart 0 true other).drop 1

end Annotator.Document

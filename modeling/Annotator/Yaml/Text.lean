/-! YAML text is made of allowed characters in lines that end at line breaks. -/

namespace Annotator

/-- Why a text is not a YAML document. -/
inductive YamlError
  /-- It contains a character that may not occur at all. -/
  | forbiddenCharacter
  /-- A character cannot begin anything where it stands. -/
  | unexpectedCharacter
  /-- A quotation stays open or is cut by a document marker. -/
  | openQuotation
  /-- An escape within double quotes means nothing. -/
  | badEscape
  /-- A tab stands where indentation is counted. -/
  | tabbedIndentation
  /-- The header of a block of text is malformed. -/
  | badBlockHeader
  /-- A directive is malformed or unknown. -/
  | badDirective
  /-- A key is not followed by its colon. -/
  | missingColon
  /-- An indicator stands where none is allowed. -/
  | misplacedIndicator
  /-- A construct is not closed or not continued as it must be. -/
  | unexpectedToken
  /-- There is more than one document. -/
  | severalDocuments
  /-- Anchors, aliases and tags are not read. -/
  | unsupported
  deriving DecidableEq, Repr

namespace YamlError

/-- The wording of an error. -/
def message : YamlError → String
  -- Each error is named in a few words.
  | .forbiddenCharacter => "control characters are not allowed"
  | .unexpectedCharacter => "found character that cannot start any token"
  | .openQuotation => "found unexpected end of quoted scalar"
  | .badEscape => "found unknown escape character"
  | .tabbedIndentation => "found a tab character that violates indentation"
  | .badBlockHeader => "did not find expected comment or line break"
  | .badDirective => "found malformed directive"
  | .missingColon => "could not find expected ':'"
  | .misplacedIndicator => "indicator is not allowed in this context"
  | .unexpectedToken => "did not find expected node content"
  | .severalDocuments =>
    "deserializing from YAML containing more than one document is not supported"
  | .unsupported => "anchors, aliases and tags are not supported"

end YamlError

namespace Yaml

/-- The characters that may occur in a document. -/
def isAllowed (c : Char) : Bool :=
  -- Control characters other than tabs and line breaks are excluded.
  let n := c.toNat
  n == 0x09 || n == 0x0A || n == 0x0D || (0x20 ≤ n && n ≤ 0x7E) || n == 0x85 ||
    (0xA0 ≤ n && n ≤ 0xD7FF) || (0xE000 ≤ n && n ≤ 0xFFFD) || 0x10000 ≤ n

/-- The mark that may stand at the start of a line between tokens. -/
def byteOrderMark : Char :=
  -- It has no meaning of its own, but it takes up a column.
  '\ufeff'

/-- Line breaks of all kinds but the Unicode separators become newlines. -/
def unifyBreaks : List Char → List Char
  -- A carriage return and the newline behind it are one break.
  | [] => []
  | '\r' :: '\n' :: rest => '\n' :: unifyBreaks rest
  | c :: rest => (if c == '\r' || c == '\x85' then '\n' else c) :: unifyBreaks rest

/-- Line breaks that remain once they are unified. -/
def isBreak (c : Char) : Bool :=
  -- The two Unicode separators are kept apart from newlines.
  c == '\n' || c == '\u2028' || c == '\u2029'

/-- White space within a line. -/
def isGap (c : Char) : Bool :=
  -- Only spaces and tabs count.
  c == ' ' || c == '\t'

/-- White space and line breaks. -/
def isGapOrBreak (c : Char) : Bool :=
  -- Either kind separates words.
  isGap c || isBreak c

/-- A text that goes on with white space, with a line break or not at all. -/
def endsWord (text : List Char) : Bool :=
  -- The end of the text ends a word too.
  text.head?.all isGapOrBreak

/-- A document marker is three equal characters that end a word. -/
def startsMarker (mark : Char) (text : List Char) : Bool :=
  -- Callers make sure that the text stands at the start of a line.
  [mark, mark, mark].isPrefixOf text && endsWord (text.drop 3)

/-- Either document marker. -/
def startsAnyMarker (text : List Char) : Bool :=
  -- Dashes begin a document and dots end one.
  startsMarker '-' text || startsMarker '.' text

/-- Folding a run of white space and breaks turns a lone newline into a space. -/
def folded (run : List Char) : List Char :=
  -- White space around breaks is dropped, and further breaks stand for themselves.
  match run.filter isBreak with
  | [] => run
  | '\n' :: [] => [' ']
  | '\n' :: more => more
  | breaks => breaks

/-- The characters of a document once its breaks are unified. -/
def prepare (text : String) : Except YamlError (List Char) :=
  -- Every character is checked, wherever it stands.
  if text.toList.all isAllowed then .ok (unifyBreaks text.toList)
  else .error .forbiddenCharacter

end Yaml

end Annotator

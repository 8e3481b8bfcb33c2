import Annotator.Yaml.Scalar

/-! A document is cut into tokens, which make the nesting by indentation explicit. -/

namespace Annotator.Yaml

/-- The tokens of a document. -/
inductive Token
  /-- A list begins by indentation. -/
  | blockListStart
  /-- A map begins by indentation. -/
  | blockMapStart
  /-- A list or map ends by indentation. -/
  | blockEnd
  /-- A list opens with a bracket. -/
  | flowListStart
  /-- A list closes with a bracket. -/
  | flowListEnd
  /-- A map opens with a brace. -/
  | flowMapStart
  /-- A map closes with a brace. -/
  | flowMapEnd
  /-- A dash begins an item. -/
  | blockItem
  /-- A comma separates items. -/
  | flowItem
  /-- A key follows. -/
  | key
  /-- A value follows. -/
  | value
  /-- A scalar, plain or not. -/
  | scalar (plain : Bool) (text : List Char)
  /-- The version directive. -/
  | version
  /-- A document begins. -/
  | documentStart
  /-- A document ends. -/
  | documentEnd
  deriving DecidableEq, Repr, Inhabited

/-- A token that becomes a key if a colon follows it on the same line. -/
structure PossibleKey where
  /-- The number of the token. -/
  token : Nat
  /-- The colon must follow, because nothing else may stand there. -/
  required : Bool
  /-- The number of bytes in front of the token. -/
  index : Nat
  /-- The line on which it begins. -/
  line : Nat
  /-- The column at which it begins. -/
  column : Nat
  deriving Repr

/-- The state of cutting a document into tokens. -/
structure Lexer where
  /-- The place reached. -/
  cursor : Cursor
  /-- The column of the innermost collection that is set by indentation. -/
  indent : Int := -1
  /-- The columns of the collections around it. -/
  outer : List Int := []
  /-- The possible key at this level of brackets and braces. -/
  possible : Option PossibleKey := none
  /-- The possible keys of the levels around it. -/
  enclosing : List (Option PossibleKey) := []
  /-- A key may begin here. -/
  keyAllowed : Bool := true
  /-- The tokens so far. -/
  tokens : Array Token := #[]

namespace Lexer

/-- Brackets or braces are open. -/
def inFlow (lexer : Lexer) : Bool :=
  -- Each open bracket or brace encloses a level.
  !lexer.enclosing.isEmpty

/-- A token is added at the end. -/
def emit (lexer : Lexer) (token : Token) : Lexer :=
  -- The order of tokens is that of the text.
  { lexer with tokens := lexer.tokens.push token }

/-- A key that was required but got no colon is an error, and any other is given up. -/
def dropKey (lexer : Lexer) : Except YamlError Lexer :=
  -- Giving up a key leaves its token as it is.
  if lexer.possible.any (·.required) then .error .missingColon
  else .ok { lexer with possible := none }

/-- A possible key goes stale on a later line or far behind its start. -/
def isStale (cursor : Cursor) (key : PossibleKey) : Bool :=
  -- The length of a key is counted in bytes, with its quotes and the white space behind it.
  key.line < cursor.line || key.index + 1024 < cursor.index

/-- A possible key that is still fresh. -/
def fresh (cursor : Cursor) (key : Option PossibleKey) :
    Except YamlError (Option PossibleKey) :=
  -- A required key must not go stale.
  match key with
  | none => .ok none
  | some key =>
    if !isStale cursor key then .ok (some key)
    else if key.required then .error .missingColon
    else .ok none

/-- Stale keys are given up on all levels. -/
def dropStale (lexer : Lexer) : Except YamlError Lexer := do
  -- A required key on any level is an error.
  let possible ← fresh lexer.cursor lexer.possible
  let enclosing ← lexer.enclosing.mapM (fresh lexer.cursor)
  return { lexer with possible, enclosing }

/-- The next token may turn out to be a key. -/
def saveKey (lexer : Lexer) : Except YamlError Lexer := do
  -- At the column of the innermost collection there can be nothing but keys.
  if lexer.keyAllowed then
    let lexer ← lexer.dropKey
    let key : PossibleKey :=
      { token := lexer.tokens.size
        required := !lexer.inFlow && lexer.indent == (lexer.cursor.column : Int)
        index := lexer.cursor.index, line := lexer.cursor.line, column := lexer.cursor.column }
    return { lexer with possible := some key }
  else return lexer

/-- Indentation beyond the innermost collection begins a new one in front of a given token. -/
def indentTo (lexer : Lexer) (column : Nat) (place : Nat) (token : Token) : Lexer :=
  -- Between brackets and braces indentation has no meaning.
  if lexer.inFlow || (column : Int) ≤ lexer.indent then lexer
  else
    { lexer with
      outer := lexer.indent :: lexer.outer
      indent := column
      tokens := lexer.tokens.insertIdxIfInBounds place token }

/-- The collections that end in front of a column, and what is left of those around them. -/
def endedBefore (column : Int) : Int → List Int → Nat × Int × List Int
  -- A collection ends when something stands to the left of its column.
  | indent, [] => (0, indent, [])
  | indent, around :: outer =>
    if column < indent then
      let (count, left, rest) := endedBefore column around outer
      (count + 1, left, rest)
    else (0, indent, around :: outer)

/-- Collections that are indented beyond a column end. -/
def unindentTo (lexer : Lexer) (column : Int) : Lexer :=
  -- Between brackets and braces indentation has no meaning.
  if lexer.inFlow then lexer
  else
    let (count, indent, outer) := endedBefore column lexer.indent lexer.outer
    { lexer with
      indent, outer
      tokens := lexer.tokens ++ Array.replicate count .blockEnd }

/-- Comments, white space and line breaks in front of the next token are passed over. -/
def skipBlank : Nat → Lexer → Lexer
  -- A mark may stand first on a line, and behind a line break a key may begin again.
  | 0, lexer => lexer
  | fuel + 1, lexer =>
    let spaces := fun c => c == ' ' || (c == '\t' && (lexer.inFlow || !lexer.keyAllowed))
    let cursor :=
      if lexer.cursor.column == 0 && lexer.cursor.startsWith byteOrderMark then lexer.cursor.next
      else lexer.cursor
    let cursor := cursor.skipWhile spaces
    let cursor :=
      if cursor.startsWith '#' then cursor.skipWhile fun c => !isBreak c else cursor
    if cursor.rest.head?.any isBreak then
      skipBlank fuel
        { lexer with cursor := cursor.next, keyAllowed := lexer.keyAllowed || !lexer.inFlow }
    else { lexer with cursor }

/-- A token of some length that neither is nor follows a key. -/
def take (lexer : Lexer) (length : Nat) (keyAllowed : Bool) (token : Token) : Lexer :=
  -- The characters of the token are passed over.
  { lexer.emit token with cursor := lexer.cursor.skip length, keyAllowed }

/-- A document marker ends every collection. -/
def takeMarker (lexer : Lexer) (token : Token) : Except YamlError Lexer := do
  -- No key can span it.
  let lexer ← (lexer.unindentTo (-1)).dropKey
  return lexer.take 3 false token

/-- A number of a version and what follows it. -/
def versionNumber? (text : List Char) : Option (Nat × List Char) :=
  -- Zeros may stand in front, but there are nine digits at most.
  let digits := text.takeWhile Char.isDigit
  if 9 < digits.length then none
  else (Text.number? 10 digits).map fun value => (value, text.dropWhile Char.isDigit)

/-- What follows a version that can be read. -/
def behindVersion? (text : List Char) : Option (List Char) :=
  -- The first number is one, and the second is one or two.
  match versionNumber? text with
  | some (1, '.' :: minor) =>
    match versionNumber? minor with
    | some (1, rest) => some rest
    | some (2, rest) => some rest
    | _ => none
  | _ => none

/-- The version directive is read, and no other. -/
def takeDirective (lexer : Lexer) : Except YamlError Lexer := do
  -- A comment may follow on its line, and no key begins until the line behind it ends.
  let lexer ← (lexer.unindentTo (-1)).dropKey
  let word := lexer.cursor.rest.takeWhile fun c => !isGapOrBreak c
  let number := (lexer.cursor.skip word.length).skipWhile isGap
  match behindVersion? number.rest with
  | none => throw .badDirective
  | some behind =>
    if word != "%YAML".toList then throw .badDirective
    let cursor := (number.moveTo behind).skipWhile isGap
    let cursor := if cursor.startsWith '#' then cursor.skipWhile fun c => !isBreak c else cursor
    if !cursor.atEnd && !cursor.rest.head?.any isBreak then throw .badDirective
    return { lexer.emit .version with cursor := cursor.next, keyAllowed := false }

/-- An opening bracket or brace may begin a key and opens a level. -/
def openFlow (lexer : Lexer) (token : Token) : Except YamlError Lexer := do
  -- A key may follow inside.
  let lexer ← lexer.saveKey
  let inner := { lexer with possible := none, enclosing := lexer.possible :: lexer.enclosing }
  return inner.take 1 true token

/-- A closing bracket or brace closes a level, if one is open. -/
def closeFlow (lexer : Lexer) (token : Token) : Except YamlError Lexer := do
  -- The possible key of the level around it comes back.
  let lexer ← lexer.dropKey
  let around := match lexer.enclosing with
    | key :: rest => { lexer with possible := key, enclosing := rest }
    | [] => lexer
  return around.take 1 false token

/-- A comma allows a key behind it. -/
def takeComma (lexer : Lexer) : Except YamlError Lexer := do
  -- What stood before it was no key.
  let lexer ← lexer.dropKey
  return lexer.take 1 true .flowItem

/-- A construct that begins a line may begin a collection there. -/
def beginCollection (lexer : Lexer) (token : Token) : Except YamlError Lexer :=
  -- Elsewhere it stands in the middle of something.
  if lexer.inFlow then .ok lexer
  else if lexer.keyAllowed then
    .ok (lexer.indentTo lexer.cursor.column lexer.tokens.size token)
  else .error .misplacedIndicator

/-- A dash begins an item. -/
def takeDash (lexer : Lexer) : Except YamlError Lexer := do
  -- The item may itself begin with a key.
  let lexer ← lexer.beginCollection .blockListStart
  let lexer ← lexer.dropKey
  return lexer.take 1 true .blockItem

/-- A question mark announces a key. -/
def takeQuestion (lexer : Lexer) : Except YamlError Lexer := do
  -- The key may be a collection whose first key follows at once.
  let lexer ← lexer.beginCollection .blockMapStart
  let lexer ← lexer.dropKey
  return lexer.take 1 (!lexer.inFlow) .key

/-- A colon turns the possible key in front of it into a key. -/
def takeColon (lexer : Lexer) : Except YamlError Lexer := do
  -- Without one the key is empty or was announced.
  match lexer.possible with
  | some key =>
    let tokens := lexer.tokens.insertIdxIfInBounds key.token .key
    let keyed := { lexer with tokens, possible := none }
    let keyed := keyed.indentTo key.column key.token .blockMapStart
    return keyed.take 1 false .value
  | none =>
    let lexer ← lexer.beginCollection .blockMapStart
    return lexer.take 1 (!lexer.inFlow) .value

/-- A scalar that may be a key. -/
def takeScalar (lexer : Lexer) (plain : Bool)
    (scanned : Except YamlError ScannedScalar) : Except YamlError Lexer := do
  -- A plain scalar may have passed over a line break.
  let lexer ← lexer.saveKey
  let scalar ← scanned
  return { lexer.emit (.scalar plain scalar.text) with
    cursor := scalar.cursor, keyAllowed := scalar.endsLine }

/-- A block of lines is never a key and ends at the start of a line. -/
def takeBlock (lexer : Lexer) : Except YamlError Lexer := do
  -- A key may follow.
  let lexer ← lexer.dropKey
  let scalar ← scanBlock lexer.indent lexer.cursor
  return { lexer.emit (.scalar false scalar.text) with
    cursor := scalar.cursor, keyAllowed := true }

/-- Characters that cannot begin a plain scalar. -/
def isIndicator (c : Char) : Bool :=
  -- Each of them begins something else or is reserved.
  "-?:,[]\x7b\x7d#&*!|>'\"%@\x60".toList.contains c

/-- A plain scalar begins with no indicator, or with one that has no such meaning here. -/
def startsPlain (lexer : Lexer) (c : Char) (rest : List Char) : Bool :=
  -- A dash must not be followed by white space, nor a question mark or a colon end a word.
  !(isIndicator c || isGapOrBreak c) || (c == '-' && !rest.head?.any isGap) ||
    (!lexer.inFlow && (c == '?' || c == ':') && !endsWord rest)

/-- The token that begins with a given character is taken. -/
def takeToken (lexer : Lexer) (c : Char) (rest : List Char) : Except YamlError Lexer :=
  -- Indicators are tried before plain scalars.
  let cursor := lexer.cursor
  if cursor.column == 0 && c == '%' then lexer.takeDirective
  else if cursor.column == 0 && startsMarker '-' cursor.rest then
    lexer.takeMarker .documentStart
  else if cursor.column == 0 && startsMarker '.' cursor.rest then lexer.takeMarker .documentEnd
  else if c == '[' then lexer.openFlow .flowListStart
  else if c == '\x7b' then lexer.openFlow .flowMapStart
  else if c == ']' then lexer.closeFlow .flowListEnd
  else if c == '\x7d' then lexer.closeFlow .flowMapEnd
  else if c == ',' then lexer.takeComma
  else if c == '-' && endsWord rest then lexer.takeDash
  else if c == '?' && (lexer.inFlow || endsWord rest) then lexer.takeQuestion
  else if c == ':' && (lexer.inFlow || endsWord rest) then lexer.takeColon
  else if c == '*' || c == '&' || c == '!' then .error .unsupported
  else if (c == '|' || c == '>') && !lexer.inFlow then lexer.takeBlock
  else if c == '\'' || c == '"' then lexer.takeScalar false (scanQuoted c cursor)
  else if lexer.startsPlain c rest then
    lexer.takeScalar true (scanPlain lexer.inFlow (lexer.indent + 1).toNat cursor)
  else .error .unexpectedCharacter

/-- Tokens are taken until the text ends, which ends every collection. -/
def run : Nat → Lexer → Except YamlError (Array Token)
  -- Each round passes over at least one character.
  | 0, lexer => .ok lexer.tokens
  | fuel + 1, lexer => do
    let lexer ← (lexer.skipBlank (lexer.cursor.rest.length + 1)).dropStale
    let lexer := lexer.unindentTo lexer.cursor.column
    match lexer.cursor.rest with
    | [] =>
      let lexer ← (lexer.unindentTo (-1)).dropKey
      return lexer.tokens
    | c :: rest => run fuel (← lexer.takeToken c rest)

end Lexer

/-- The tokens of a document. -/
def tokens (text : List Char) : Except YamlError (List Token) :=
  -- The first line may begin with a key.
  (Lexer.run (text.length + 1) { cursor := { rest := text } }).map Array.toList

end Annotator.Yaml

import Annotator.Text.Number
import Annotator.Yaml.Cursor

/-! Scalars are written plainly, between quotes, or as blocks of indented lines. -/

namespace Annotator.Yaml

/-- A scalar that was read, and where it ends. -/
structure ScannedScalar where
  /-- Its text. -/
  text : List Char
  /-- The place behind it. -/
  cursor : Cursor
  /-- Line breaks were passed over behind its last character. -/
  endsLine : Bool := false
  deriving Inhabited

/-! ## Plain scalars -/

/-- The characters that separate items between brackets and braces. -/
def isFlowSeparator (c : Char) : Bool :=
  -- Such a character ends a plain scalar there.
  c == ',' || c == '[' || c == ']' || c == '\x7b' || c == '\x7d'

/-- The front of a plain scalar up to white space or what ends it. -/
def plainRun (inFlow : Bool) : List Char → Except YamlError (List Char)
  -- A colon ends it only when it ends a word.
  | [] => .ok []
  | c :: rest =>
    if isGapOrBreak c then .ok []
    else if inFlow && c == ':' && rest.head?.any (fun d => isFlowSeparator d || d == '?') then
      .error .misplacedIndicator
    else if c == ':' && endsWord rest then .ok []
    else if inFlow && isFlowSeparator c then .ok []
    else (plainRun inFlow rest).map (c :: ·)

/-- A tab stands in front of the column at which a continued line may begin. -/
def tabsTooEarly (indent : Nat) (run : List Char) : Bool :=
  -- Only what follows the first break is indentation.
  ((run.dropWhile fun c => !isBreak c).splitOnP isBreak).any fun gap =>
    (gap.takeWhile (· == ' ')).length < indent &&
      (gap.drop (gap.takeWhile (· == ' ')).length).head? == some '\t'

/-- A plain scalar goes on over white space while its lines are indented. -/
def scanPlainFrom (inFlow : Bool) (indent : Nat) :
    Nat → Cursor → List Char → List Char → Bool → Except YamlError ScannedScalar
  -- The gap in front of a word is kept only when the word follows.
  | 0, cursor, text, _, endsLine => .ok { text, cursor, endsLine }
  | fuel + 1, cursor, text, gap, endsLine =>
    if cursor.atMarker || cursor.startsWith '#' then .ok { text, cursor, endsLine }
    else
      match plainRun inFlow cursor.rest with
      | .error error => .error error
      | .ok [] => .ok { text, cursor, endsLine }
      | .ok word =>
        let text := text ++ folded gap ++ word
        let cursor := cursor.skip word.length
        let run := cursor.rest.takeWhile isGapOrBreak
        if run.isEmpty then .ok { text, cursor }
        else if tabsTooEarly indent run then .error .tabbedIndentation
        else
          let cursor := cursor.skip run.length
          let endsLine := run.any isBreak
          if !inFlow && cursor.column < indent then .ok { text, cursor, endsLine }
          else scanPlainFrom inFlow indent fuel cursor text run endsLine

/-- A plain scalar whose continuation lines begin at a column or later. -/
def scanPlain (inFlow : Bool) (indent : Nat) (cursor : Cursor) :
    Except YamlError ScannedScalar :=
  -- Each round passes over at least one character.
  scanPlainFrom inFlow indent (cursor.rest.length + 1) cursor [] [] false

/-! ## Quoted scalars -/

/-- What a one-letter escape stands for. -/
def escapeMeaning? (c : Char) : Option Char :=
  -- The letters follow the usual names of control characters.
  match c with
  | '0' => some '\x00'
  | 'a' => some '\x07'
  | 'b' => some '\x08'
  | 't' => some '\t'
  | '\t' => some '\t'
  | 'n' => some '\n'
  | 'v' => some '\x0b'
  | 'f' => some '\x0c'
  | 'r' => some '\r'
  | 'e' => some '\x1b'
  | ' ' => some ' '
  | '"' => some '"'
  | '/' => some '/'
  | '\\' => some '\\'
  | 'N' => some '\x85'
  | '_' => some '\xa0'
  | 'L' => some '\u2028'
  | 'P' => some '\u2029'
  | _ => none

/-- The number of hexadecimal digits behind a letter that announces a code point. -/
def escapeDigits? (c : Char) : Option Nat :=
  -- The letters differ in the width of the number.
  match c with
  | 'x' => some 2
  | 'u' => some 4
  | 'U' => some 8
  | _ => none

/-- The character with a code point given in hexadecimal. -/
def codePoint? (digits : List Char) : Option Char :=
  -- Surrogates and numbers beyond the last character stand for nothing.
  (Text.number? 16 digits).bind fun value =>
    if h : value.isValidChar then some ⟨value.toUInt32, by
      have bound : value < UInt32.size := by
        rcases h with small | ⟨_, large⟩ <;> simp only [UInt32.size] <;> omega
      simpa [UInt32.isValidChar, Nat.toUInt32, UInt32.toNat_ofNat_of_lt' bound] using h⟩
    else none

/-- How a run of characters between quotes ends. -/
inductive QuotedEnd
  /-- White space or a line break follows. -/
  | gap
  /-- The closing quote follows. -/
  | quote
  /-- A line break was escaped. -/
  | escapedBreak
  deriving DecidableEq

/-- The front of a quoted scalar up to white space, its end or an escaped line break. -/
def quotedRun (quote : Char) :
    Nat → List Char → Except YamlError (List Char × List Char × QuotedEnd)
  -- Single quotes know one escape, which is the doubled quote.
  | 0, rest => .ok ([], rest, .gap)
  | _, [] => .ok ([], [], .gap)
  | fuel + 1, c :: rest =>
    let proceed (meaning : Char) (after : List Char) :=
      (quotedRun quote fuel after).map fun (text, rest, stop) => (meaning :: text, rest, stop)
    if isGapOrBreak c then .ok ([], c :: rest, .gap)
    else if c == quote then
      if quote == '\'' && rest.head? == some '\'' then proceed '\'' (rest.drop 1)
      else .ok ([], c :: rest, .quote)
    else if quote == '"' && c == '\\' then
      match rest with
      | [] => .error .badEscape
      | d :: after =>
        if isBreak d then .ok ([], after, .escapedBreak)
        else match escapeMeaning? d, escapeDigits? d with
          | some meaning, _ => proceed meaning after
          | none, some width =>
            match codePoint? (after.take width) with
            | some meaning =>
              if (after.take width).length == width then proceed meaning (after.drop width)
              else .error .badEscape
            | none => .error .badEscape
          | none, none => .error .badEscape
    else proceed c rest

/-- A quoted scalar goes on over white space until its closing quote. -/
def scanQuotedFrom (quote : Char) :
    Nat → Cursor → List Char → Except YamlError ScannedScalar
  -- A document marker may not stand inside.
  | 0, _, _ => .error .openQuotation
  | fuel + 1, cursor, text =>
    if cursor.atMarker || cursor.atEnd then .error .openQuotation
    else
      match quotedRun quote cursor.rest.length cursor.rest with
      | .error error => .error error
      | .ok (word, rest, stop) =>
        let text := text ++ word
        let cursor := cursor.moveTo rest
        match stop with
        | .quote => .ok { text, cursor := cursor.next }
        | .gap =>
          let run := cursor.rest.takeWhile isGapOrBreak
          scanQuotedFrom quote fuel (cursor.skip run.length) (text ++ folded run)
        | .escapedBreak =>
          let run := cursor.rest.takeWhile isGapOrBreak
          if cursor.startsWith quote then .ok { text, cursor := cursor.next }
          else scanQuotedFrom quote fuel (cursor.skip run.length) (text ++ run.filter isBreak)

/-- A quoted scalar from its opening quote on. -/
def scanQuoted (quote : Char) (cursor : Cursor) : Except YamlError ScannedScalar :=
  -- Each round passes over at least one character.
  scanQuotedFrom quote (cursor.rest.length + 1) cursor.next []

/-! ## Block scalars -/

/-- How the line breaks at the end of a block are treated. -/
inductive Chomping
  /-- All of them are dropped. -/
  | strip
  /-- One of them is kept. -/
  | clip
  /-- All of them are kept. -/
  | keep
  deriving DecidableEq, Repr

/-- The header of a block. -/
structure BlockHeader where
  /-- How its end is treated. -/
  chomping : Chomping := .clip
  /-- The indentation given for it, if there is one. -/
  indentation : Option Nat := none
  deriving Repr

/-- A chomping indicator. -/
def chomping? (c : Char) : Option Chomping :=
  -- A minus strips and a plus keeps.
  if c == '+' then some .keep else if c == '-' then some .strip else none

/-- An indentation indicator is a digit other than zero. -/
def indentation? (c : Char) : Option Nat :=
  -- Zero is no indentation.
  if '1' ≤ c && c ≤ '9' then some (c.toNat - '0'.toNat) else none

/-- The two indicators behind the sign of a block, in either order. -/
def blockHeader (text : List Char) : BlockHeader × List Char :=
  -- Either of them may be missing.
  match text with
  | [] => ({}, [])
  | c :: rest =>
    match chomping? c, indentation? c with
    | some chomping, _ =>
      match rest.head?.bind indentation? with
      | some width => ({ chomping, indentation := some width }, rest.drop 1)
      | none => ({ chomping }, rest)
    | none, some width =>
      match rest.head?.bind chomping? with
      | some chomping => ({ chomping, indentation := some width }, rest.drop 1)
      | none => ({ indentation := some width }, rest)
    | none, none => ({}, text)

/-- The breaks of empty lines, and the place and largest indentation in front of the next line. -/
structure BlockBreaks where
  /-- The breaks that were passed over. -/
  breaks : List Char
  /-- The place behind them and behind the indentation of the next line. -/
  cursor : Cursor
  /-- The largest number of spaces in front of an empty line or of the next one. -/
  deepest : Nat

/-- Empty lines in front of a line of a block, whose indentation may still be unknown. -/
def scanBlockBreaks (indent : Option Nat) :
    Nat → Cursor → List Char → Nat → Except YamlError BlockBreaks
  -- Spaces are passed over up to the indentation.
  | 0, cursor, breaks, deepest => .ok { breaks, cursor, deepest }
  | fuel + 1, cursor, breaks, deepest =>
    let spaces := (cursor.rest.takeWhile (· == ' ')).length
    let passed := match indent with
      | some width => min spaces (width - cursor.column)
      | none => spaces
    let cursor := cursor.skip passed
    let deepest := max deepest cursor.column
    if indent.all (cursor.column < ·) && cursor.startsWith '\t' then .error .tabbedIndentation
    else
      match cursor.rest.head?.filter isBreak with
      | some c => scanBlockBreaks indent fuel cursor.next (breaks ++ [c]) deepest
      | none => .ok { breaks, cursor, deepest }

/-- The break at the end of a line of a block, unless the document ends there. -/
def lineEnd (cursor : Cursor) : List Char :=
  -- The last line may lack its break.
  (cursor.rest.head?.filter isBreak).toList

/-- Lines of a block are joined by their breaks, or folded where neither line starts blank. -/
def scanBlockLines (folds : Bool) (indent : Nat) :
    Nat → Cursor → List Char → List Char → List Char → Bool →
      Except YamlError (List Char × List Char × List Char × Cursor)
  -- The break of the last line and the empty lines behind it are returned apart.
  | 0, cursor, text, ending, breaks, _ => .ok (text, ending, breaks, cursor)
  | fuel + 1, cursor, text, ending, breaks, startedBlank =>
    if cursor.column != indent || cursor.atEnd then .ok (text, ending, breaks, cursor)
    else
      let startsBlank := cursor.rest.head?.any isGap
      let joint :=
        if folds && ending == ['\n'] && !startedBlank && !startsBlank then
          if breaks.isEmpty then [' '] else []
        else ending
      let line := cursor.rest.takeWhile fun c => !isBreak c
      let text := text ++ joint ++ breaks ++ line
      let cursor := cursor.skip line.length
      let ending := lineEnd cursor
      match scanBlockBreaks (some indent) (cursor.rest.length + 1) cursor.next [] 0 with
      | .error error => .error error
      | .ok found =>
        scanBlockLines folds indent fuel found.cursor text ending found.breaks startsBlank

/-- A block from its sign on, inside a collection of a given indentation. -/
def scanBlock (outer : Int) (cursor : Cursor) : Except YamlError ScannedScalar :=
  -- Unless it is given, the first line that is not empty sets the indentation.
  let folds := cursor.startsWith '>'
  let (header, rest) := blockHeader cursor.next.rest
  let cursor := (cursor.moveTo rest).skipWhile isGap
  let cursor :=
    if cursor.startsWith '#' then cursor.skipWhile fun c => !isBreak c else cursor
  if !(cursor.atEnd || cursor.rest.head?.any isBreak) then .error .badBlockHeader
  else
    let cursor := cursor.next
    let given := header.indentation.map fun width => outer.toNat + width
    match scanBlockBreaks given (cursor.rest.length + 1) cursor [] 0 with
    | .error error => .error error
    | .ok found =>
      let indent := given.getD (max found.deepest (max (outer + 1).toNat 1))
      match scanBlockLines folds indent (cursor.rest.length + 1) found.cursor [] []
          found.breaks false with
      | .error error => .error error
      | .ok (text, ending, breaks, cursor) =>
        let tail := match header.chomping with
          | .strip => []
          | .clip => ending
          | .keep => ending ++ breaks
        .ok { text := text ++ tail, cursor }

end Annotator.Yaml

/-! Command lines split into words by the quoting rules of a POSIX shell. -/

namespace Annotator.ShellWords

/-- Where a scan stands within a command line. -/
inductive Mode
  /-- Outside every word. -/
  | between
  /-- Behind a backslash that may open a word. -/
  | opening
  /-- Inside a word, outside quotes. -/
  | bare
  /-- Behind a backslash inside a word. -/
  | escaped
  /-- Between single quotes. -/
  | single
  /-- Between double quotes. -/
  | double
  /-- Behind a backslash between double quotes. -/
  | doubleEscaped
  /-- Behind a hash sign that opened a comment. -/
  | comment
  deriving DecidableEq, Repr

/-- Only a space, a tab or a newline ends a word. -/
def isSeparator (c : Char) : Bool :=
  -- Other blanks belong to words.
  c == ' ' || c == '\t' || c == '\n'

/-- A backslash keeps its meaning between double quotes only before these characters. -/
def isDoubleEscapable (c : Char) : Bool :=
  -- A newline is removed together with the backslash and is handled apart.
  c == '$' || c == '\x60' || c == '"' || c == '\\'

/-- Scanning yields the words from here on, unless a quotation stays open.

The letters already read of the current word are kept in reverse. -/
def scan : Mode → List Char → List Char → Option (List (List Char))
  -- The text ends: a word in progress is complete, a quotation in progress is an error.
  | .between, _, [] => some []
  | .comment, _, [] => some []
  | .bare, word, [] => some [word.reverse]
  | .opening, word, [] => some [('\\' :: word).reverse]
  | .escaped, word, [] => some [('\\' :: word).reverse]
  | .single, _, [] => none
  | .double, _, [] => none
  | .doubleEscaped, _, [] => none
  -- Outside every word.
  | .between, word, c :: rest =>
    if c == '\'' then scan .single word rest
    else if c == '"' then scan .double word rest
    else if c == '\\' then scan .opening word rest
    else if isSeparator c then scan .between word rest
    else if c == '#' then scan .comment word rest
    else scan .bare (c :: word) rest
  | .opening, word, c :: rest =>
    if c == '\n' then scan .between word rest else scan .bare (c :: word) rest
  -- Inside a word, outside quotes.
  | .bare, word, c :: rest =>
    if c == '\'' then scan .single word rest
    else if c == '"' then scan .double word rest
    else if c == '\\' then scan .escaped word rest
    else if isSeparator c then (scan .between [] rest).map (word.reverse :: ·)
    else scan .bare (c :: word) rest
  | .escaped, word, c :: rest =>
    if c == '\n' then scan .bare word rest else scan .bare (c :: word) rest
  -- Inside quotes.
  | .single, word, c :: rest =>
    if c == '\'' then scan .bare word rest else scan .single (c :: word) rest
  | .double, word, c :: rest =>
    if c == '"' then scan .bare word rest
    else if c == '\\' then scan .doubleEscaped word rest
    else scan .double (c :: word) rest
  | .doubleEscaped, word, c :: rest =>
    if c == '\n' then scan .double word rest
    else if isDoubleEscapable c then scan .double (c :: word) rest
    else scan .double (c :: '\\' :: word) rest
  -- Inside a comment.
  | .comment, word, c :: rest =>
    if c == '\n' then scan .between word rest else scan .comment word rest

/-- The words of a command line, or nothing when a quotation stays open. -/
def split? (text : List Char) : Option (List (List Char)) :=
  -- A command line starts outside every word.
  scan .between [] text

end Annotator.ShellWords

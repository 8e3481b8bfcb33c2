/-! Blanks are the Unicode white space, and words are the nonempty pieces between blanks. -/

namespace Annotator

/-- Blanks are the twenty-five characters of the Unicode White_Space property. -/
def isBlank (c : Char) : Bool :=
  -- The ranges are listed in code point order, with the ASCII ones first.
  let n := c.toNat
  (0x09 ≤ n && n ≤ 0x0D) || n == 0x20 || n == 0x85 || n == 0xA0 || n == 0x1680 ||
    (0x2000 ≤ n && n ≤ 0x200A) || n == 0x2028 || n == 0x2029 || n == 0x202F || n == 0x205F ||
    n == 0x3000

namespace Text

/-- Trimming the start removes the longest blank run at the front. -/
def trimStart (text : List Char) : List Char :=
  -- Only a leading run is affected, never a blank behind another character.
  text.dropWhile isBlank

/-- Trimming the end removes the longest blank run at the back. -/
def trimEnd (text : List Char) : List Char :=
  -- The back is the front of the reversed text.
  (text.reverse.dropWhile isBlank).reverse

/-- Trimming removes the blank runs at both ends. -/
def trim (text : List Char) : List Char :=
  -- The two ends are independent unless the whole text is blank.
  trimEnd (trimStart text)

/-- Words are the nonempty pieces of a text between its blanks. -/
def words (text : List Char) : List (List Char) :=
  -- Neighbouring blanks produce empty pieces, which are not words.
  (text.splitOnP isBlank).filter fun piece => !piece.isEmpty

/-- A text starts blank when its first character is white space. -/
def startsBlank (text : List Char) : Bool :=
  -- The empty text has no first character.
  text.head?.any isBlank

/-- The final word part is the longest run of nonblank characters at the back. -/
def lastRun (text : List Char) : List Char :=
  -- The back is the front of the reversed text.
  (text.reverse.takeWhile fun c => !isBlank c).reverse

end Text

/-- A trimmed string has no white space at either end. -/
def trimmed (text : String) : String :=
  -- Trimming works on the characters and packs the rest again.
  String.ofList (Text.trim text.toList)

/-- A string is blank when trimming leaves nothing. -/
def isBlankText (text : String) : Bool :=
  -- This holds exactly when every character is white space.
  text.toList.all isBlank

end Annotator

/-! Captured output is a byte stream whose lines end at newlines and are decoded one by one. -/

namespace Annotator.Text

/-- The newline byte. -/
def newline : UInt8 :=
  -- Line feed is the only byte that ends a line.
  10

/-- Lines are the pieces between newlines, without an empty piece behind the last one. -/
def rawLines (bytes : List UInt8) : List (List UInt8) :=
  -- A final line needs no newline, and a final newline opens no further line.
  let pieces := bytes.splitOn newline
  if pieces.getLast? = some [] then pieces.dropLast else pieces

/-- Decoding a line fails when its bytes are not UTF-8. -/
def decode? (bytes : List UInt8) : Option String :=
  -- Packed bytes are checked as a whole.
  String.fromUTF8? (ByteArray.mk bytes.toArray)

/-- The reason why bytes cannot be decoded. -/
def undecodable : String :=
  -- UTF-8 is the only encoding of text.
  "stream did not contain valid UTF-8"

/-- Carriage returns at the end of a line are not part of its text. -/
def dropReturns (line : String) : String :=
  -- Every carriage return at the back is removed, not only one.
  String.ofList (line.toList.reverse.dropWhile (· == '\r')).reverse

end Annotator.Text

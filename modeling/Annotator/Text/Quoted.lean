import Annotator.Text.HiddenChar

/-! Quoted text is written between double quotes with every unclear character escaped. -/

namespace Annotator

/-- A code point escape writes the hexadecimal number in braces. -/
def codePointEscape (c : Char) : List Char :=
  -- The digits are lower case and have no leading zeros.
  ['\\', 'u', '\x7b'] ++ Nat.toDigits 16 c.toNat ++ ['\x7d']

/-- The written form of one character inside a quotation. -/
def quotedChar (c : Char) : List Char :=
  -- Short escapes come first, then code point escapes for characters that do not show.
  if c == '\x00' then ['\\', '0']
  else if c == '\t' then ['\\', 't']
  else if c == '\r' then ['\\', 'r']
  else if c == '\n' then ['\\', 'n']
  else if c == '\\' then ['\\', '\\']
  else if c == '"' then ['\\', '"']
  else if isHidden c then codePointEscape c
  else [c]

/-- A quotation leaves an apostrophe as it is, because double quotes delimit the text. -/
def quoted (text : String) : String :=
  -- Each character is escaped on its own between the two delimiters.
  String.ofList ('"' :: text.toList.flatMap quotedChar ++ ['"'])

/-- A list of texts is written as quotations between brackets. -/
def quotedList (texts : List String) : String :=
  -- The items are separated by a comma and a space.
  "[" ++ ", ".intercalate (texts.map quoted) ++ "]"

end Annotator

import Annotator.Text.Bytes

/-! A phrase is found at the least offset where it starts. -/

namespace Annotator.Text

/-- A text starts with a phrase when the phrase is its front. -/
def startsWith (phrase text : List Char) : Bool :=
  -- The comparison is character by character.
  phrase.isPrefixOf text

/-- A text ends with a phrase when the phrase is its back. -/
def endsWith (phrase text : List Char) : Bool :=
  -- The comparison is character by character from the back.
  phrase.isSuffixOf text

/-- A text contains a phrase when the phrase starts somewhere in it. -/
def contains (phrase : List Char) : List Char → Bool
  -- The empty text contains only the empty phrase.
  | [] => phrase.isEmpty
  | c :: rest => phrase.isPrefixOf (c :: rest) || contains phrase rest

/-- The least byte offset at which one of several phrases starts. -/
def firstOffset? (phrases : List (List Char)) : List Char → Option Nat
  -- A later offset counts the bytes of every character passed over.
  | [] => if phrases.any (·.isEmpty) then some 0 else none
  | c :: rest =>
    if phrases.any (·.isPrefixOf (c :: rest)) then some 0
    else (firstOffset? phrases rest).map (c.utf8Size + ·)

end Annotator.Text

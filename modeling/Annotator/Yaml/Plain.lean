import Annotator.Text.Number

/-! A plain scalar may stand for nothing, for a truth value or for a number instead of a text. -/

namespace Annotator.Yaml.Plain

/-- Null is written in four ways. -/
def isNull (text : List Char) : Bool :=
  -- The empty scalar is treated apart.
  ["null", "Null", "NULL", "~"].any (·.toList == text)

/-- A truth value is written in lower case, in upper case or capitalised. -/
def flag? (text : List Char) : Option Bool :=
  -- Other words for yes and no are texts.
  if ["true", "True", "TRUE"].any (·.toList == text) then some true
  else if ["false", "False", "FALSE"].any (·.toList == text) then some false
  else none

/-- A text without one leading sign. -/
def unsigned (text : List Char) : List Char :=
  -- Only one sign is removed.
  match text with
  | '+' :: rest => rest
  | '-' :: rest => rest
  | other => other

/-- Digits behind a leading zero are a text and not a number. -/
def hasLeadingZero (text : List Char) : Bool :=
  -- A sign in front does not matter.
  match unsigned text with
  | '0' :: rest => !rest.isEmpty && rest.all Char.isDigit
  | _ => false

/-- The digits behind the mark of a base. -/
def marked? (mark text : List Char) : Option (List Char) :=
  -- The mark stands in front.
  if mark.isPrefixOf text then some (text.drop mark.length) else none

/-- A natural number behind the mark of a base. -/
def markedNumber? (text : List Char) : Option Nat :=
  -- Hexadecimal, octal and binary numbers have marks.
  ((marked? "0x".toList text).bind (Text.number? 16)).or
    (((marked? "0o".toList text).bind (Text.number? 8)).or
      ((marked? "0b".toList text).bind (Text.number? 2)))

/-- A natural number up to a bound, which may carry a plus sign. -/
def natural? (bound : Nat) (text : List Char) : Option Nat :=
  -- Decimal numbers may not have leading zeros.
  let digits := match text with
    | '+' :: rest => rest
    | other => other
  let value := (markedNumber? digits).or
    (if hasLeadingZero text then none else Text.number? 10 digits)
  value.filter (· ≤ bound)

/-- The largest natural number that any integer type holds. -/
def largestNatural : Nat :=
  -- It has one hundred and twenty-eight bits.
  Nat.pow 2 128 - 1

/-- A negative integer that some integer type holds. -/
def isNegative (text : List Char) : Bool :=
  -- The mark of a base stands behind the sign.
  match text with
  | '-' :: digits =>
    let value := (markedNumber? digits).or
      (if hasLeadingZero text then none else Text.number? 10 digits)
    value.any (· ≤ Nat.pow 2 127)
  | _ => false

/-- The digits of a decimal number, the number of them behind the point, and its exponent. -/
def decimal? (text : List Char) : Option (List Char × Nat × Int) :=
  -- There must be a digit in front of the exponent, and one in it if it is given.
  let whole := text.takeWhile Char.isDigit
  let behind := text.dropWhile Char.isDigit
  let (fraction, behind) := match behind with
    | '.' :: rest => (rest.takeWhile Char.isDigit, rest.dropWhile Char.isDigit)
    | other => ([], other)
  if whole.isEmpty && fraction.isEmpty then none
  else match behind with
    | [] => some (whole ++ fraction, fraction.length, 0)
    | mark :: exponent =>
      if mark != 'e' && mark != 'E' then none
      else
        match exponent with
        | '-' :: digits =>
          (Text.number? 10 digits).map fun value => (whole ++ fraction, fraction.length, -value)
        | _ =>
          let digits := match exponent with
            | '+' :: rest => rest
            | other => other
          (Text.number? 10 digits).map fun value => (whole ++ fraction, fraction.length, value)

/-- A decimal number that is not too large for a floating-point number. -/
def isFiniteDecimal (text : List Char) : Bool :=
  -- Far from the limit the number of digits decides.
  match decimal? text with
  | none => false
  | some (digits, places, exponent) =>
    let significant := digits.dropWhile (· == '0')
    let shift := exponent - places
    let size := (significant.length : Int) + shift
    if significant.isEmpty || size ≤ 300 then true
    else if 320 ≤ size then false
    else
      let value := (Text.number? 10 significant).getD 0
      let limit := Nat.pow 2 1024 - Nat.pow 2 970
      if 0 ≤ shift then value * Nat.pow 10 shift.toNat < limit
      else value < limit * Nat.pow 10 (-shift).toNat

/-- A floating-point number, which may be infinite or undefined. -/
def isFloat (text : List Char) : Bool :=
  -- Two signs in a row are no sign.
  let positive := match text with
    | '+' :: rest => rest
    | other => other
  let doubled := text.head? == some '+' &&
    (positive.head? == some '+' || positive.head? == some '-')
  !doubled &&
    ([".inf", ".Inf", ".INF"].any (·.toList == positive) ||
      ["-.inf", "-.Inf", "-.INF", ".nan", ".NaN", ".NAN"].any (·.toList == text) ||
      isFiniteDecimal (unsigned positive))

/-- A plain scalar that would not be read as a text, or that merely looks like a number. -/
def needsQuotes (text : List Char) : Bool :=
  -- Texts of this form are written between quotes.
  text.isEmpty || isNull text || (flag? text).isSome ||
    (natural? largestNatural text).isSome || isNegative text || hasLeadingZero text ||
    isFloat text

end Annotator.Yaml.Plain

/-! Integers are read from digits of a base, with an optional sign and within bounds. -/

namespace Annotator.Text

/-- The value of an ASCII digit or letter as a digit of bases up to thirty-six. -/
def digitValue? (c : Char) : Option Nat :=
  -- Letters continue after nine, in either case.
  if c.isDigit then some (c.toNat - '0'.toNat)
  else if c.isLower then some (c.toNat - 'a'.toNat + 10)
  else if c.isUpper then some (c.toNat - 'A'.toNat + 10)
  else none

/-- Further digits extend a number already read from its more significant digits. -/
def extendNumber? (base : Nat) (digits : List Char) (start : Nat) : Option Nat :=
  -- Reading fails at the first character that is no digit of the base.
  digits.foldlM (fun total c =>
    match digitValue? c with
    | some value => if value < base then some (total * base + value) else none
    | none => none) start

/-- A number is a nonempty run of digits of its base. -/
def number? (base : Nat) (digits : List Char) : Option Nat :=
  -- The empty text is no number.
  if digits.isEmpty then none else extendNumber? base digits 0

/-- An unsigned number may carry a plus sign and is at most the bound. -/
def unsigned? (base bound : Nat) (text : List Char) : Option Nat := do
  -- A plus sign must still be followed by digits.
  let digits := match text with
    | '+' :: rest => rest
    | other => other
  let value ← number? base digits
  if value ≤ bound then some value else none

/-- A signed number may carry either sign and lies between the bounds. -/
def signed? (base : Nat) (low high : Int) (text : List Char) : Option Int := do
  -- The sign is applied before the bounds are checked.
  let value : Int ← match text with
    | '+' :: digits => (number? base digits).map Int.ofNat
    | '-' :: digits => (number? base digits).map fun value => -Int.ofNat value
    | digits => (number? base digits).map Int.ofNat
  if low ≤ value && value ≤ high then some value else none

end Annotator.Text

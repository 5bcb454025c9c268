import SqlGateway.Fault

/-!
# Decimal numbers

A decimal number is given by its canonical text: digits, perhaps with a point among them
and an exponent of ten behind them. Infinities and what is no number have texts of letters
alone.
-/

namespace SqlGateway

/-- A decimal number: a whole number with a power of ten. -/
structure Decimal where
  /-- Whether the number has a minus. -/
  negative : Bool
  /-- The digits as one number. -/
  digits : Nat
  /-- The power of ten by which the digits are scaled. -/
  exponent : Int
  deriving DecidableEq, Repr

namespace Decimal

/-- Ten to a power. -/
def tenTo (power : Nat) : Nat :=
  Nat.pow 10 power

/-- The text without a minus, and whether it had one. -/
def splitMinus : List Char → Bool × List Char
  | '-' :: rest => (true, rest)
  | rest => (false, rest)

/-- The exponent behind its letter. -/
def exponentOf (text : List Char) : Int :=
  match text with
  | '-' :: digits => -(Text.digitsValue digits : Int)
  | '+' :: digits | digits => Text.digitsValue digits

/-- The number that a canonical text stands for, unless it is infinite or no number. -/
def ofText? (text : String) : Option Decimal :=
  let (negative, unsigned) := splitMinus text.toList
  let coefficient := unsigned.takeWhile (· != 'E')
  let whole := coefficient.takeWhile (· != '.')
  let fraction := (coefficient.drop whole.length).drop 1
  let digits := whole ++ fraction
  if digits.isEmpty ∨ !digits.all Char.isDigit then none
  else
    some {
      negative, digits := Text.digitsValue digits
      exponent := exponentOf ((unsigned.drop coefficient.length).drop 1) - fraction.length }

/-- The number as a fraction. -/
def ratio (number : Decimal) : Int × Nat :=
  let signed (size : Nat) : Int := if number.negative then -(size : Int) else size
  if 0 ≤ number.exponent then (signed (number.digits * tenTo number.exponent.toNat), 1)
  else (signed number.digits, tenTo (-number.exponent).toNat)

/-- The whole number towards zero. -/
def truncate (number : Decimal) : Int :=
  number.ratio.1.tdiv number.ratio.2

/-- Whether the number is whole. -/
def isWhole (number : Decimal) : Bool :=
  number.ratio.1 % (number.ratio.2 : Int) == 0

/-- A number without a fraction is its own whole number. -/
theorem truncate_of_exponent_zero (digits : Nat) :
    truncate { negative := false, digits, exponent := 0 } = digits := by
  simp [truncate, ratio, tenTo]

end Decimal

/-- The whole number towards zero of a decimal number that is given by its text. -/
def Decimal.wholeOfText (text : String) : Outcome Int :=
  match ofText? text with
  | some number => .ok number.truncate
  | none =>
      if text.toList.contains 'I' then
        (Fault.overflow "cannot convert Infinity to integer").raise
      else (Fault.invalidValue "cannot convert NaN to integer").raise

end SqlGateway

import SqlGateway.Binary64.Basic
import SqlGateway.Text.Digit

/-!
# Decimal texts of numbers

A number is written with the fewest decimal digits that read back as the same number,
and of those the nearest ones. Where a point or an exponent is written is a matter of
the format.
-/

namespace SqlGateway

namespace Binary64

/-- The number nearest to a whole number times a power of ten. Powers far outside the
    range of the numbers are not computed: the result is zero or infinite. -/
def ofDecimal (negative : Bool) (digits : Nat) (power : Int) : Binary64 :=
  let length := (Nat.toDigits 10 digits).length
  if digits = 0 ∨ power + length < -400 then zero negative
  else if 400 < power + length then infinite negative
  else if 0 ≤ power then ofFraction negative (digits * Nat.pow 10 power.toNat) 1
  else ofFraction negative digits (Nat.pow 10 (-power).toNat)

/-- A positive decimal number: its digits, the first of which is not zero, and the power
    of ten of the first one. -/
structure Decimal where
  /-- The digits as a whole number. -/
  digits : Nat
  /-- The power of ten that the first digit counts. -/
  exponent : Int
  deriving DecidableEq, Repr

/-- Ten to a power that may be negative, as a fraction. -/
def powerOfTen (exponent : Int) : Nat × Nat :=
  if 0 ≤ exponent then (Nat.pow 10 exponent.toNat, 1) else (1, Nat.pow 10 (-exponent).toNat)

/-- The greatest exponent of ten that a positive fraction reaches. The estimate from
    the binary length is at most one away. -/
def decimalExponent (dividend divisor : Nat) : Int :=
  let estimate := ((dividend.log2 : Int) - divisor.log2) * 30103 / 100000
  let reaches (exponent : Int) : Bool :=
    let power := powerOfTen exponent
    divisor * power.1 ≤ dividend * power.2
  if reaches (estimate + 1) then estimate + 1
  else if reaches estimate then estimate
  else estimate - 1

/-- The numbers that read back as a given positive number lie between two fractions with
    a common divisor; the ends belong to them if the significand is even. -/
structure Interval where
  /-- Dividend of the lower end. -/
  low : Nat
  /-- Dividend of the number itself. -/
  middle : Nat
  /-- Dividend of the upper end. -/
  high : Nat
  /-- The common divisor. -/
  divisor : Nat
  /-- Whether the ends belong to the interval. -/
  closed : Bool

/-- The interval of a positive number. Just above a power of two the numbers below are
    closer together. -/
def interval (significand : Nat) (exponent : Int) : Interval :=
  let power := powerOfTwo (exponent - 2)
  let below := if significand = 0x10000000000000 ∧ -1074 < exponent then 1 else 2
  { low := (4 * significand - below) * power.1
    middle := 4 * significand * power.1
    high := (4 * significand + 2) * power.1
    divisor := power.2
    closed := significand % 2 == 0 }

/-- Whether a whole number times a power of ten lies in the interval. -/
def Interval.holds (range : Interval) (digits : Nat) (power : Int) : Bool :=
  let scale := powerOfTen power
  let value := digits * scale.1 * range.divisor
  let low := range.low * scale.2
  let high := range.high * scale.2
  if range.closed then low ≤ value && value ≤ high else low < value && value < high

/-- The nearest of the two neighbours on a decimal grid that lies in the interval. Of two
    equally near ones the even one is taken. -/
def Interval.onGrid? (range : Interval) (power : Int) : Option Nat :=
  let scale := powerOfTen power
  let middle := range.middle * scale.2
  let unit := range.divisor * scale.1
  let below := middle / unit
  let nearest := roundDiv middle unit
  let other := if nearest = below then below + 1 else below
  if range.holds nearest power then some nearest
  else if range.holds other power then some other
  else none

/-- The first grid, from coarse to fine, with a number in the interval. -/
def Interval.shortestFrom (range : Interval) (exponent : Int) : (fuel : Nat) → (places : Nat) →
    Option (Nat × Int)
  | 0, _ => none
  | fuel + 1, places =>
      let power := exponent - places
      match range.onGrid? power with
      | some digits => some (digits, power)
      | none => shortestFrom range exponent fuel (places + 1)

/-- A whole number without the zeros at its end, and how many there were. -/
def withoutZeros : (fuel : Nat) → Nat → Nat × Nat
  | 0, digits => (digits, 0)
  | fuel + 1, digits =>
      if digits % 10 = 0 ∧ digits ≠ 0 then
        let fewer := withoutZeros fuel (digits / 10)
        (fewer.1, fewer.2 + 1)
      else (digits, 0)

/-- The shortest decimal number that reads back as a positive number. Seventeen digits
    always suffice. -/
def shortest (significand : Nat) (exponent : Int) : Decimal :=
  let range := interval significand exponent
  let leading := decimalExponent range.middle range.divisor
  match range.shortestFrom leading 18 0 with
  | some (digits, power) =>
      let plain := withoutZeros 20 digits
      let length := (Nat.toDigits 10 plain.1).length
      { digits := plain.1, exponent := power + plain.2 + length - 1 }
  | none => { digits := significand, exponent := 0 }

/-- How numbers are written. -/
structure Format where
  /-- The least exponent of ten without an exponent in the text. -/
  leastPlain : Int
  /-- The greatest exponent of ten without an exponent in the text. -/
  greatestPlain : Int
  /-- Whether a positive exponent has a sign. -/
  plusSign : Bool
  /-- Least number of digits of the exponent. -/
  exponentDigits : Nat
  /-- The text of nan. -/
  nan : String
  /-- The text of infinity. -/
  infinity : String

/-- The digits of an exponent with its sign. -/
def Format.exponentText (format : Format) (exponent : Int) : String :=
  let digits := Nat.toDigits 10 exponent.natAbs
  let padding := List.replicate (format.exponentDigits - digits.length) '0'
  let sign := if exponent < 0 then "-" else if format.plusSign then "+" else ""
  sign ++ String.ofList (padding ++ digits)

/-- The text of a positive decimal number. -/
def Format.decimalText (format : Format) (number : Decimal) : String :=
  let digits := Nat.toDigits 10 number.digits
  if number.exponent < format.leastPlain ∨ format.greatestPlain < number.exponent then
    let fraction := digits.drop 1
    let significand := digits.take 1 ++ if fraction.isEmpty then [] else '.' :: fraction
    String.ofList significand ++ "e" ++ format.exponentText number.exponent
  else if number.exponent < 0 then
    "0." ++ String.ofList (List.replicate (-number.exponent - 1).toNat '0' ++ digits)
  else
    let before := number.exponent.toNat + 1
    let whole := digits.take before ++ List.replicate (before - digits.length) '0'
    let fraction := digits.drop before
    String.ofList whole ++ "." ++ if fraction.isEmpty then "0" else String.ofList fraction

/-- The text of a number. -/
def text (format : Format) : Binary64 → String
  | finite negative significand exponent _ =>
      let magnitude :=
        if significand = 0 then "0.0" else format.decimalText (shortest significand exponent)
      if negative then "-" ++ magnitude else magnitude
  | infinite negative => if negative then "-" ++ format.infinity else format.infinity
  | nan => format.nan

/-- Digits, perhaps a point with further digits, and perhaps an exponent with a sign.
    Nothing but ASCII is read, and the whole text has to be used. -/
def ofUnsigned? (negative : Bool) (text : List Char) : Option Binary64 := do
  let whole := text.takeWhile Char.isDigit
  let rest := text.dropWhile Char.isDigit
  let (fraction, rest) := match rest with
    | '.' :: rest => (rest.takeWhile Char.isDigit, rest.dropWhile Char.isDigit)
    | _ => ([], rest)
  guard !(whole.isEmpty && fraction.isEmpty)
  let power ← match rest with
    | [] => some 0
    | c :: exponent => do
        guard (c == 'e' || c == 'E')
        let (negative, digits) := match exponent with
          | '-' :: digits => (true, digits)
          | '+' :: digits => (false, digits)
          | digits => (false, digits)
        guard (!digits.isEmpty && digits.all Char.isDigit)
        let value := Text.digitsValue digits
        some (if negative then -(value : Int) else value)
  some (ofDecimal negative (Text.digitsValue (whole ++ fraction)) (power - fraction.length))

end Binary64

end SqlGateway

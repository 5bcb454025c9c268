/-!
# Binary floating-point numbers

Numbers with a significand of 53 bits and an exponent of 11 bits, with the two
infinities and one not-a-number. Every operation takes the exact result and rounds it
once, to the nearest number and a half to the even significand, so all of them are
computed in whole numbers.
-/

namespace SqlGateway

/-- A significand and an exponent are canonical when the significand has all 53 bits,
    or fewer at the smallest exponent. -/
def Binary64.Canonical (significand : Nat) (exponent : Int) : Prop :=
  significand < 0x20000000000000 ∧ -1074 ≤ exponent ∧ exponent ≤ 971 ∧
    (0x10000000000000 ≤ significand ∨ exponent = -1074)

instance (significand : Nat) (exponent : Int) :
    Decidable (Binary64.Canonical significand exponent) :=
  inferInstanceAs (Decidable (_ ∧ _))

/-- A binary floating-point number. A finite one stands for the significand times two
    to the exponent; zero has a sign. -/
inductive Binary64 where
  | finite (negative : Bool) (significand : Nat) (exponent : Int)
      (canonical : Binary64.Canonical significand exponent)
  | infinite (negative : Bool)
  | nan
  deriving DecidableEq, Repr

namespace Binary64

/-- Zero with a sign. -/
def zero (negative : Bool) : Binary64 :=
  .finite negative 0 (-1074) (by decide)

/-- The number with these parts. Parts that are not canonical are too large for a
    finite number. -/
def ofParts (negative : Bool) (significand : Nat) (exponent : Int) : Binary64 :=
  if canonical : Canonical significand exponent then .finite negative significand exponent canonical
  else .infinite negative

/-- The quotient rounded to the nearest whole number, a half to the even one. -/
def roundDiv (dividend divisor : Nat) : Nat :=
  let quotient := dividend / divisor
  let twice := 2 * (dividend % divisor)
  if twice < divisor ∨ (twice = divisor ∧ quotient % 2 = 0) then quotient else quotient + 1

/-- Two to a power that may be negative, as a fraction. -/
def powerOfTwo (exponent : Int) : Nat × Nat :=
  if 0 ≤ exponent then (1 <<< exponent.toNat, 1) else (1, 1 <<< (-exponent).toNat)

/-- The number nearest to a fraction. The exponent is chosen so that the significand
    has 53 bits, and a significand that is rounded up to one bit more is halved. -/
def ofFraction (negative : Bool) (dividend divisor : Nat) : Binary64 :=
  if dividend = 0 then zero negative
  else
    let scaled (exponent : Int) : Nat × Nat :=
      let power := powerOfTwo (-exponent)
      (dividend * power.1, divisor * power.2)
    let estimate := (dividend.log2 : Int) - divisor.log2 - 52
    let wide := scaled estimate
    let exponent :=
      max (-1074) (if wide.1 / wide.2 < 0x10000000000000 then estimate - 1 else estimate)
    let exact := scaled exponent
    let significand := roundDiv exact.1 exact.2
    if significand = 0x20000000000000 then ofParts negative 0x10000000000000 (exponent + 1)
    else ofParts negative significand exponent

/-- The number nearest to a significand times a power of two. -/
def ofDyadic (negative : Bool) (significand : Nat) (exponent : Int) : Binary64 :=
  let power := powerOfTwo exponent
  ofFraction negative (significand * power.1) power.2

/-- The number nearest to a whole number. -/
def ofInt (value : Int) : Binary64 :=
  ofFraction (value < 0) value.natAbs 1

/-- Whether the number is neither infinite nor nan. -/
def isFinite : Binary64 → Bool
  | finite .. => true
  | infinite _ | nan => false

/-- Whether the number is not a number. -/
def isNan : Binary64 → Bool
  | nan => true
  | finite .. | infinite _ => false

/-- Whether the number equals zero, of either sign. -/
def isZero : Binary64 → Bool
  | finite _ significand _ _ => significand == 0
  | infinite _ | nan => false

/-- A significand with its sign. -/
def signed (negative : Bool) (significand : Nat) : Int :=
  if negative then -(significand : Int) else significand

/-- Two dyadic numbers over the smaller of their exponents. -/
def align (first : Int) (firstExponent : Int) (second : Int) (secondExponent : Int) :
    Int × Int × Int :=
  let exponent := min firstExponent secondExponent
  let scaled (significand ownExponent : Int) : Int :=
    significand * ((1 <<< (ownExponent - exponent).toNat : Nat) : Int)
  (scaled first firstExponent, scaled second secondExponent, exponent)

/-- The sum of two numbers. An exact zero is negative only if both numbers are. -/
def add : Binary64 → Binary64 → Binary64
  | nan, _ | _, nan => nan
  | infinite a, infinite b => if a = b then infinite a else nan
  | infinite a, finite .. => infinite a
  | finite .., infinite b => infinite b
  | finite a m e _, finite b n f _ =>
      let aligned := align (signed a m) e (signed b n) f
      let sum := aligned.1 + aligned.2.1
      if sum = 0 then zero (a && b) else ofDyadic (sum < 0) sum.natAbs aligned.2.2

/-- The number with the other sign. -/
def neg : Binary64 → Binary64
  | finite negative significand exponent canonical =>
      finite (!negative) significand exponent canonical
  | infinite negative => infinite (!negative)
  | nan => nan

/-- The difference of two numbers. -/
def sub (first second : Binary64) : Binary64 :=
  first.add second.neg

instance : Add Binary64 := ⟨add⟩
instance : Neg Binary64 := ⟨neg⟩
instance : Sub Binary64 := ⟨sub⟩

/-- Whether the first number is less than the second. Nothing is less or greater than
    nan. -/
def less : Binary64 → Binary64 → Bool
  | nan, _ | _, nan => false
  | infinite a, infinite b => a && !b
  | infinite a, finite .. => a
  | finite .., infinite b => !b
  | finite a m e _, finite b n f _ =>
      let aligned := align (signed a m) e (signed b n) f
      decide (aligned.1 < aligned.2.1)

/-- Whether two numbers are equal: zero has one value, and nan equals nothing. -/
def same : Binary64 → Binary64 → Bool
  | nan, _ | _, nan => false
  | infinite a, infinite b => a == b
  | infinite _, finite .. | finite .., infinite _ => false
  | finite a m e _, finite b n f _ =>
      let aligned := align (signed a m) e (signed b n) f
      decide (aligned.1 = aligned.2.1)

/-- Whether the first number is less than or equal to the second. -/
def atMost (first second : Binary64) : Bool :=
  less first second || same first second

/-- The whole number towards zero of a finite number. -/
def toInt? : Binary64 → Option Int
  | finite negative significand exponent _ =>
      let power := powerOfTwo exponent
      some (signed negative (significand * power.1 / power.2))
  | infinite _ | nan => none

/-- Whether a finite number is whole. -/
def isWhole : Binary64 → Bool
  | finite _ significand exponent _ =>
      let power := powerOfTwo exponent
      significand * power.1 % power.2 == 0
  | infinite _ | nan => false

/-- Adding nan gives nan. -/
theorem add_nan (number : Binary64) : number + nan = nan := by
  cases number <;> rfl

/-- Nothing is less than itself. -/
theorem less_irrefl (number : Binary64) : less number number = false := by
  cases number <;> simp [less, align]

/-- Changing the sign twice changes nothing. -/
theorem neg_neg (number : Binary64) : -(-number) = number := by
  cases number with
  | finite negative => cases negative <;> rfl
  | infinite negative => cases negative <;> rfl
  | nan => rfl

end Binary64

end SqlGateway

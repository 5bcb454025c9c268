import SqlGateway.Binary64.Basic
import SqlGateway.Value.Decimal

/-!
# Numbers of any kind

Truth values, whole numbers, doubles and decimal numbers are compared by what they are
worth, exactly. What is no number, although it is written as one, is neither equal to
anything nor before it.
-/

namespace SqlGateway

/-- A number of any kind. -/
inductive Number where
  /-- A fraction. Its denominator is not zero. -/
  | fraction (numerator : Int) (denominator : Nat)
  /-- What lies before or behind all fractions. -/
  | infinite (negative : Bool)
  /-- What is no number. -/
  | undefined
  deriving DecidableEq, Repr

namespace Number

/-- A whole number. -/
def whole (number : Int) : Number :=
  fraction number 1

/-- Whether two numbers are worth the same. -/
def equals : Number → Number → Bool
  | fraction a b, fraction c d => a * d == c * b
  | infinite first, infinite second => first == second
  | _, _ => false

/-- Whether the first number is less than the second. -/
def isLess : Number → Number → Bool
  | fraction a b, fraction c d => decide (a * d < c * b)
  | fraction _ _, infinite negative => !negative
  | infinite negative, fraction _ _ => negative
  | infinite first, infinite second => first && !second
  | undefined, _ | _, undefined => false

/-- Whether the first number is less than the second, where a strict comparison refuses
    what is no number. -/
def isBefore (strict : Bool) (first second : Number) : Outcome Bool :=
  if strict && (first == undefined || second == undefined) then Fault.undefined.raise
  else .ok (first.isLess second)

/-- Equal numbers are not less than each other. -/
theorem isLess_of_equals (first second : Number) (equal : first.equals second = true) :
    first.isLess second = false := by
  cases first <;> cases second <;> simp_all [equals, isLess]

end Number

/-- The number that the text of a decimal number stands for. -/
def Decimal.number (text : String) : Number :=
  match ofText? text with
  | some decimal => .fraction decimal.ratio.1 decimal.ratio.2
  | none =>
      if text.toList.contains 'I' then .infinite (text.toList.head? == some '-') else .undefined

/-- The number that a double is. -/
def Binary64.number : Binary64 → Number
  | finite negative significand exponent _ =>
      let power := powerOfTwo exponent
      .fraction (signed negative (significand * power.1)) power.2
  | infinite negative => .infinite negative
  | nan => .undefined

namespace Value

/-- The number that a value is, if it is one of any kind. -/
def number? : Value → Option Number
  | bool value => some (.whole (if value then 1 else 0))
  | int value => some (.whole value)
  | float value => some value.number
  | decimal text => some (Decimal.number text)
  | _ => none

/-- Whether a value is a decimal number. -/
def isDecimal : Value → Bool
  | decimal _ => true
  | _ => false

end Value

end SqlGateway

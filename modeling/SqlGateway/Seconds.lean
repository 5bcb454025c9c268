import SqlGateway.Fault

/-!
# Seconds

Seconds on a clock, or those that pass, are counted in whole numbers or in floating-point
numbers. Whole numbers are added exactly for as long as they meet their kind only; beside
a floating-point number they give way to the nearest one, which has to exist. Moments are
compared exactly whatever they are counted in.
-/

namespace SqlGateway

/-- A number of seconds. -/
inductive Seconds where
  | whole (count : Int)
  | real (count : Binary64)
  deriving DecidableEq, Repr

namespace Seconds

/-- The floating-point number nearest to a number of seconds, unless it is too large. -/
def nearest : Seconds → Outcome Binary64
  | real count => .ok count
  | whole count =>
      let nearest := Binary64.ofInt count
      if nearest.isFinite then .ok nearest
      else (Fault.overflow "int too large to convert to float").raise

/-- The sum of two numbers of seconds. -/
def add : Seconds → Seconds → Outcome Seconds
  | whole first, whole second => .ok (whole (first + second))
  | first, second => do return real ((← first.nearest) + (← second.nearest))

/-- The seconds that have passed since a moment. -/
def since (now : Seconds) (moment : Binary64) : Outcome Binary64 := do
  return (← now.nearest) - moment

/-- Whether a moment lies before now. -/
def isAfter (now : Seconds) (moment : Binary64) : Bool :=
  match now, moment with
  | real now, moment => moment.less now
  | whole _, .nan => false
  | whole _, .infinite negative => negative
  | whole now, .finite negative significand exponent _ =>
      let aligned := Binary64.align (Binary64.signed negative significand) exponent now 0
      decide (aligned.1 < aligned.2.1)

/-- No moment lies before now if it is not a number. -/
theorem isAfter_nan (now : Seconds) : now.isAfter .nan = false := by
  cases now <;> rfl

end Seconds

end SqlGateway

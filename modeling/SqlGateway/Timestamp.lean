import SqlGateway.Calendar
import SqlGateway.Value.Whole

/-!
# Moments and ages

A moment is given by its seconds since the first of January 1970, in universal time. It
has a text only if it falls into the years that the calendar has, while every number of
seconds that is finite has a text as an age.
-/

namespace SqlGateway

/-- The nearest whole number, a half to the even one. -/
def Binary64.nearest : Binary64 → Int
  | finite negative significand exponent _ =>
      let power := powerOfTwo exponent
      signed negative (roundDiv (significand * power.1) power.2)
  | infinite _ | nan => 0

namespace Timestamp

/-- Seconds and millionths of a second. The fraction is scaled as a number of its own
    before it is rounded, and a full second is carried. -/
def split : Binary64 → Int × Nat
  | .finite negative significand exponent _ =>
      let power := Binary64.powerOfTwo exponent
      let scaled := significand * power.1
      let whole := Binary64.signed negative (scaled / power.2)
      let part := (Binary64.ofFraction negative (scaled % power.2 * 1000000) power.2).nearest
      if part < 0 then (whole - 1, (part + 1000000).toNat)
      else if part < 1000000 then (whole, part.toNat)
      else (whole + 1, (part - 1000000).toNat)
  | .infinite _ | .nan => (0, 0)

/-- The last second whose year is counted in 32 bits. -/
def lastSecond : Int := 67768036191676799

/-- The first second whose year is counted in 32 bits. -/
def firstSecond : Int := -67768040609740800

/-- The moment that lies some seconds and millionths behind the first of January
    1970. -/
def ofParts (seconds : Int) (microsecond : Nat) : Outcome Calendar.DateTime :=
  if seconds < -0x8000000000000000 ∨ 0x8000000000000000 ≤ seconds then
    (Fault.overflow "timestamp out of range for platform time_t").raise
  else if seconds < firstSecond ∨ lastSecond < seconds then
    (Fault.system "[Errno 75] Value too large for defined data type").raise
  else
    let (year, month, day) := Calendar.civil (seconds / 86400)
    if year < 1 ∨ 9999 < year then
      (Fault.invalidValue ("year " ++ toString year ++ " is out of range")).raise
    else
      let second := (seconds % 86400).toNat
      .ok {
        date := { year := year.toNat, month, day }
        time := {
          hour := second / 3600, minute := second / 60 % 60, second := second % 60, microsecond
          offset := some 0 } }

/-- The moment that lies some seconds behind the first of January 1970. -/
def ofSeconds (seconds : Binary64) : Outcome Calendar.DateTime :=
  match seconds with
  | .nan => (Fault.invalidValue "Invalid value NaN (not a number)").raise
  | .infinite _ => (Fault.overflow "timestamp out of range for platform time_t").raise
  | .finite .. => ofParts (split seconds).1 (split seconds).2

/-- The text of a moment. -/
def text (seconds : Binary64) : Outcome String :=
  (·.iso "T") <$> ofSeconds seconds

end Timestamp

namespace Age

/-- The text of an age in seconds: its two largest units, or one if it is less than an
    hour. What lies ahead has no age. -/
def text (seconds : Int) : String :=
  let seconds := seconds.toNat
  let minutes := seconds / 60
  let hours := seconds / 3600
  let days := seconds / 86400
  if 0 < days then toString days ++ "d " ++ toString (hours % 24) ++ "h ago"
  else if 0 < hours then toString hours ++ "h " ++ toString (minutes % 60) ++ "m ago"
  else if 0 < minutes then toString minutes ++ "m ago"
  else toString seconds ++ "s ago"

/-- The text of an age in seconds that may have a fraction. -/
def ofSeconds (seconds : Binary64) : Outcome String :=
  text <$> seconds.whole

end Age

end SqlGateway

import SqlGateway.Text.Digit

/-!
# Dates and times

Calendar dates, times of day and their combination, with their ISO texts and with the
form in which they appear inside another value.
-/

namespace SqlGateway.Calendar

/-- A number in decimal, padded with zeros. -/
def padded (width number : Nat) : String :=
  let digits := Nat.toDigits 10 number
  String.ofList (List.replicate (width - digits.length) '0' ++ digits)

/-- A day of the calendar. -/
structure Date where
  /-- The year. -/
  year : Nat
  /-- The month, from one. -/
  month : Nat
  /-- The day of the month, from one. -/
  day : Nat
  deriving DecidableEq, Repr

/-- A time of day, perhaps with a distance from universal time. -/
structure Time where
  /-- The hour. -/
  hour : Nat
  /-- The minute. -/
  minute : Nat
  /-- The second. -/
  second : Nat
  /-- Millionths of a second. -/
  microsecond : Nat := 0
  /-- Millionths of a second by which local time is ahead of universal time. -/
  offset : Option Int := none
  deriving DecidableEq, Repr

/-- A time on a day. -/
structure DateTime where
  /-- The day. -/
  date : Date
  /-- The time of day. -/
  time : Time
  deriving DecidableEq, Repr

/-- Year, month and day with dashes. -/
def Date.iso (date : Date) : String :=
  padded 4 date.year ++ "-" ++ padded 2 date.month ++ "-" ++ padded 2 date.day

/-- Number of millionths in a second. -/
def perSecond : Nat := 1000000

/-- Six places behind a point, or nothing if the fraction is zero. -/
def fractionText (microsecond : Nat) : String :=
  if microsecond = 0 then "" else "." ++ padded 6 microsecond

/-- A distance from universal time in hours and minutes, and in seconds and their fraction
    if there are any. -/
def offsetText (offset : Int) : String :=
  let microsecond := offset.natAbs % perSecond
  let size := offset.natAbs / perSecond
  let seconds :=
    if size % 60 = 0 ∧ microsecond = 0 then ""
    else ":" ++ padded 2 (size % 60) ++ fractionText microsecond
  (if offset < 0 then "-" else "+") ++ padded 2 (size / 3600) ++ ":" ++ padded 2 (size / 60 % 60)
    ++ seconds

/-- Hour, minute and second with colons, and six places if the second has a fraction. -/
def Time.iso (time : Time) : String :=
  padded 2 time.hour ++ ":" ++ padded 2 time.minute ++ ":" ++ padded 2 time.second
    ++ fractionText time.microsecond ++ (time.offset.map offsetText).getD ""

/-- Date and time with a separator between them. -/
def DateTime.iso (separator : String) (moment : DateTime) : String :=
  moment.date.iso ++ separator ++ moment.time.iso

/-- A distance from universal time inside another value. Days alone may be negative, and
    parts that are zero are left out. -/
def offsetNested (offset : Int) : String :=
  if offset = 0 then "datetime.timezone.utc"
  else
    let part (name : String) (count : Int) : List String :=
      if count = 0 then [] else [name ++ "=" ++ toString count]
    let parts := part "days" (offset / perSecond / 86400)
      ++ part "seconds" (offset / perSecond % 86400) ++ part "microseconds" (offset % perSecond)
    "datetime.timezone(datetime.timedelta(" ++ ", ".intercalate parts ++ "))"

/-- The parts of a time inside another value. Seconds and their fraction are left out
    when they are zero. -/
def Time.parts (time : Time) : List String :=
  let numbers :=
    if time.microsecond ≠ 0 then [time.hour, time.minute, time.second, time.microsecond]
    else if time.second ≠ 0 then [time.hour, time.minute, time.second]
    else [time.hour, time.minute]
  numbers.map toString ++ ((time.offset.map fun offset => "tzinfo=" ++ offsetNested offset).toList)

/-- The parts of a date inside another value. -/
def Date.parts (date : Date) : List String :=
  [date.year, date.month, date.day].map toString

/-- A date inside another value. -/
def Date.nested (date : Date) : String :=
  "datetime.date(" ++ ", ".intercalate date.parts ++ ")"

/-- A time of day inside another value. -/
def Time.nested (time : Time) : String :=
  "datetime.time(" ++ ", ".intercalate time.parts ++ ")"

/-- A date with a time inside another value. -/
def DateTime.nested (moment : DateTime) : String :=
  "datetime.datetime(" ++ ", ".intercalate (moment.date.parts ++ moment.time.parts) ++ ")"

/-- A number of exactly so many digits at the start of a text. -/
def number? (width : Nat) (text : List Char) : Option (Nat × List Char) :=
  let digits := text.take width
  if digits.length = width ∧ digits.all Char.isDigit then
    some (Text.digitsValue digits, text.drop width)
  else none

/-- A given mark at the start of a text is passed over. -/
def mark? (mark : Char) : List Char → Option (List Char)
  | c :: rest => if c = mark then some rest else none
  | [] => none

/-- The date at the start of an ISO text. -/
def Date.read? (text : List Char) : Option (Date × List Char) := do
  let (year, text) ← number? 4 text
  let (month, text) ← number? 2 (← mark? '-' text)
  let (day, text) ← number? 2 (← mark? '-' text)
  some ({ year, month, day }, text)

/-- The fraction of a second at the start of an ISO text, zero if there is none. -/
def fraction? : List Char → Option (Nat × List Char)
  | '.' :: text => number? 6 text
  | text => some (0, text)

/-- The distance from universal time at the end of an ISO text. -/
def offset? (text : List Char) : Option (Option Int) := do
  match text with
  | [] => some none
  | sign :: text =>
      guard (sign == '+' || sign == '-')
      let (hours, text) ← number? 2 text
      let (minutes, text) ← number? 2 (← mark? ':' text)
      let (seconds, text) ← match text with
        | ':' :: text => number? 2 text
        | text => some (0, text)
      let (microsecond, text) ← fraction? text
      guard text.isEmpty
      let size : Int := (hours * 3600 + minutes * 60 + seconds) * perSecond + microsecond
      some (some (if sign == '-' then -size else size))

/-- The time of day that an ISO text stands for. -/
def Time.ofIso? (text : List Char) : Option Time := do
  let (hour, text) ← number? 2 text
  let (minute, text) ← number? 2 (← mark? ':' text)
  let (second, text) ← number? 2 (← mark? ':' text)
  let (microsecond, text) ← fraction? text
  some { hour, minute, second, microsecond, offset := ← offset? text }

/-- The date that an ISO text stands for. -/
def Date.ofIso? (text : List Char) : Option Date :=
  match Date.read? text with
  | some (date, []) => some date
  | _ => none

/-- The date and time that an ISO text stands for. -/
def DateTime.ofIso? (text : List Char) : Option DateTime := do
  let (date, text) ← Date.read? text
  some { date, time := ← Time.ofIso? (← mark? 'T' text) }

/-- Days from the first of January 1970 to the first of March of the year zero. -/
def epochShift : Int := 719468

/-- Days from the first of January 1970 to a day. Years are counted from March, so the leap
    day is the last day of a year. -/
def Date.days (date : Date) : Int :=
  let year : Int := if date.month ≤ 2 then date.year - 1 else date.year
  let monthFromMarch := (date.month + 9) % 12
  let dayOfYear := (153 * monthFromMarch + 2) / 5 + date.day - 1
  365 * year + year / 4 - year / 100 + year / 400 + dayOfYear - epochShift

/-- Millionths of a second from midnight in universal time to a time of day, which counts
    as universal time if its distance from it is not known. Only whole seconds of the
    distance count. -/
def Time.instant (time : Time) : Int :=
  (time.hour * 3600 + time.minute * 60 + time.second - time.offset.getD 0 / perSecond) * perSecond
    + time.microsecond

/-- Millionths of a second from the first of January 1970 to a moment. -/
def DateTime.instant (moment : DateTime) : Int :=
  let time := moment.time
  ((moment.date.days * 86400 + time.hour * 3600 + time.minute * 60 + time.second) * perSecond
    + time.microsecond) - time.offset.getD 0

/-- Whether two times of day are the same in universal time, or in local time if the
    distance of both from universal time is unknown. -/
def Time.meets (first second : Time) : Bool :=
  first.offset.isSome == second.offset.isSome && first.instant == second.instant

/-- Whether two moments are the same in universal time, or in local time if the distance of
    both from universal time is unknown. -/
def DateTime.meets (first second : DateTime) : Bool :=
  first.time.offset.isSome == second.time.offset.isSome && first.instant == second.instant

/-- The day that lies a number of days behind the first of January 1970, with its year
    as it is counted before the year one too. Years are counted from March; 400 years have
    146097 days. -/
def civil (days : Int) : Int × Nat × Nat :=
  let shifted := days + epochShift
  let era := shifted / 146097
  let dayOfEra := (shifted % 146097).toNat
  let yearOfEra := (dayOfEra - dayOfEra / 1460 + dayOfEra / 36524 - dayOfEra / 146096) / 365
  let dayOfYear := dayOfEra - (365 * yearOfEra + yearOfEra / 4 - yearOfEra / 100)
  let monthFromMarch := (5 * dayOfYear + 2) / 153
  let day := dayOfYear - (153 * monthFromMarch + 2) / 5 + 1
  let month := if monthFromMarch < 10 then monthFromMarch + 3 else monthFromMarch - 9
  let year := (yearOfEra : Int) + era * 400 + if month ≤ 2 then 1 else 0
  (year, month, day)

end SqlGateway.Calendar

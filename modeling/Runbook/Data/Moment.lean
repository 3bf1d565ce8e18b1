import Runbook.Number.Power
import Runbook.Number.Written

/-!
# Dates and times

A date of the calendar, a time of day, and a moment, which is both with an optional distance from
universal time in minutes. Two moments with a distance are compared on the time line.
-/

namespace Runbook

/-- A day of the calendar. -/
structure Date where
  year : Nat
  month : Nat
  day : Nat
  deriving DecidableEq, Repr, Inhabited

/-- A time of day to the microsecond. -/
structure TimeOfDay where
  hour : Nat
  minute : Nat
  second : Nat
  micro : Nat
  deriving DecidableEq, Repr, Inhabited

/-- A date and a time, with the minutes east of universal time if they are known. -/
structure Moment where
  date : Date
  time : TimeOfDay
  offset : Option Int
  deriving DecidableEq, Repr, Inhabited

namespace Date

/-- Whether a year has a leap day. -/
def isLeap (year : Nat) : Bool := year % 4 == 0 && (year % 100 != 0 || year % 400 == 0)

/-- The number of days in a month; zero for a month that does not exist. -/
def monthLength (year month : Nat) : Nat :=
  if month = 2 then (if isLeap year then 29 else 28)
  else if month = 4 ∨ month = 6 ∨ month = 9 ∨ month = 11 then 30
  else if 1 ≤ month ∧ month ≤ 12 then 31
  else 0

/-- The date, if the calendar of the years 1 to 9999 has it. -/
def ofNumbers? (year month day : Nat) : Option Date :=
  if 1 ≤ year ∧ year ≤ 9999 ∧ 1 ≤ day ∧ day ≤ monthLength year month then some ⟨year, month, day⟩
  else none

/-- The number of days before a date, counted from the first day of the year 1. -/
def dayNumber (d : Date) : Nat :=
  let y := d.year - 1
  365 * y + y / 4 - y / 100 + y / 400
    + sumOf ((List.range (d.month - 1)).map fun m => monthLength d.year (m + 1)) + (d.day - 1)

/-- The date as `2001-12-14`. -/
def iso (d : Date) : String :=
  zeroPadded 4 d.year ++ "-" ++ zeroPadded 2 d.month ++ "-" ++ zeroPadded 2 d.day

/-- The numbers of a date between commas. -/
def listed (d : Date) : String :=
  decimalText d.year ++ ", " ++ decimalText d.month ++ ", " ++ decimalText d.day

/-- The text of a date in messages. -/
def text (d : Date) : String := "datetime.date(" ++ d.listed ++ ")"

end Date

namespace TimeOfDay

/-- The time, if a day has it. -/
def ofNumbers? (hour minute second micro : Nat) : Option TimeOfDay :=
  if hour < 24 ∧ minute < 60 ∧ second < 60 ∧ micro < 1000000 then
    some ⟨hour, minute, second, micro⟩
  else none

/-- The microseconds since midnight. -/
def micros (t : TimeOfDay) : Nat :=
  ((t.hour * 60 + t.minute) * 60 + t.second) * 1000000 + t.micro

/-- The time as `21:59:43`, with six more digits unless they are all zero. -/
def iso (t : TimeOfDay) : String :=
  zeroPadded 2 t.hour ++ ":" ++ zeroPadded 2 t.minute ++ ":" ++ zeroPadded 2 t.second
    ++ (if t.micro = 0 then "" else "." ++ zeroPadded 6 t.micro)

end TimeOfDay

namespace Moment

/-- A distance from universal time as `+05:30`. -/
def offsetIso (minutes : Int) : String :=
  (if minutes < 0 then "-" else "+") ++ zeroPadded 2 (minutes.natAbs / 60) ++ ":"
    ++ zeroPadded 2 (minutes.natAbs % 60)

/-- The moment as `2001-12-14T21:59:43-05:00`. -/
def iso (m : Moment) : String :=
  m.date.iso ++ "T" ++ m.time.iso ++ (m.offset.map offsetIso).getD ""

/-- The moment as `iso` has it, with a `Z` for a distance of zero. -/
def isoUniversal (m : Moment) : String :=
  match m.offset with
  | some 0 => m.date.iso ++ "T" ++ m.time.iso ++ "Z"
  | _ => m.iso

/-- The microseconds on the time line of a moment whose distance is known. -/
def instant? (m : Moment) : Option Int :=
  m.offset.map fun minutes =>
    (m.date.dayNumber : Int) * 86400000000 + m.time.micros - minutes * 60000000

/-- Whether two moments are the same: on the time line if both have a distance. -/
def same (m n : Moment) : Bool :=
  match m.instant?, n.instant? with
  | some i, some j => i == j
  | none, none => m == n
  | _, _ => false

/-- The numbers of a time of day between commas; trailing zeros of second and microsecond go. -/
def timeListed (t : TimeOfDay) : String :=
  decimalText t.hour ++ ", " ++ decimalText t.minute
    ++ (if t.second = 0 ∧ t.micro = 0 then "" else ", " ++ decimalText t.second)
    ++ (if t.micro = 0 then "" else ", " ++ decimalText t.micro)

/-- The text of a distance in messages: whole days toward the past, then seconds. -/
def offsetText (minutes : Int) : String :=
  if minutes = 0 then "datetime.timezone.utc"
  else
    let days := if minutes < 0 then "days=-1, " else ""
    let seconds := if minutes < 0 then minutes * 60 + 86400 else minutes * 60
    "datetime.timezone(datetime.timedelta(" ++ days ++ "seconds=" ++ decimalText seconds ++ "))"

/-- The text of a moment in messages. -/
def text (m : Moment) : String :=
  "datetime.datetime(" ++ m.date.listed ++ ", " ++ timeListed m.time
    ++ (m.offset.map fun minutes => ", tzinfo=" ++ offsetText minutes).getD "" ++ ")"

end Moment

end Runbook

import Runbook.Data.Moment
import Runbook.Number.Written

/-!
# Forms of dates

A moment is told in a form. Days are counted from the first of January 1970 and turned into dates of
the Gregorian calendar.
-/

namespace Runbook.Shell

/-- The moment at which the clock starts, in seconds from the first day. -/
def clockStart : Nat := 1735689600

/-- The first day that is counted. -/
def firstDay : Date := ⟨1970, 1, 1⟩

/-- The date so many days behind the first of January of a year. -/
def dateFrom (fuel year : Nat) (days : Nat) : Date :=
  match fuel with
  | 0 => ⟨year, 1, 1⟩
  | fuel + 1 =>
    let length := if Date.isLeap year then 366 else 365
    if length ≤ days then dateFrom fuel (year + 1) (days - length) else monthFrom 12 1 days
where
  monthFrom (fuel month days : Nat) : Date :=
    match fuel with
    | 0 => ⟨year, month, days + 1⟩
    | fuel + 1 =>
      let length := Date.monthLength year month
      if length ≤ days then monthFrom fuel (month + 1) (days - length) else ⟨year, month, days + 1⟩

/-- The names of the months. -/
def monthNames : List String :=
  ["January", "February", "March", "April", "May", "June", "July", "August", "September", "October",
   "November", "December"]

/-- The names of the days of the week, from the first day that is counted on. -/
def dayNames : List String :=
  ["Thursday", "Friday", "Saturday", "Sunday", "Monday", "Tuesday", "Wednesday"]

/-- The text of a moment in a form. -/
def momentText (fuel : Nat) (seconds : Nat) (form : List Char) : String :=
  match fuel with
  | 0 => ""
  | fuel + 1 =>
    let days := seconds / 86400
    let date := dateFrom 10000 firstDay.year days
    let hour := seconds / 3600 % 24
    let again (text : String) : String := momentText fuel seconds text.toList
    let dayOfYear := date.dayNumber - Date.dayNumber ⟨date.year, 1, 1⟩ + 1
    match form with
    | '%' :: letter :: rest =>
      let text :=
        match letter with
        | 'Y' => toString date.year
        | 'C' => zeroPadded 2 (date.year / 100)
        | 'y' => zeroPadded 2 (date.year % 100)
        | 'm' => zeroPadded 2 date.month
        | 'd' => zeroPadded 2 date.day
        | 'e' => String.ofList (padLeft 2 ' ' (decimalDigits date.day))
        | 'j' => zeroPadded 3 dayOfYear
        | 'H' => zeroPadded 2 hour
        | 'I' => zeroPadded 2 ((hour + 11) % 12 + 1)
        | 'M' => zeroPadded 2 (seconds / 60 % 60)
        | 'S' => zeroPadded 2 (seconds % 60)
        | 'N' => "000000000"
        | 's' => toString seconds
        | 'p' => if hour < 12 then "AM" else "PM"
        | 'u' => toString ((days + 3) % 7 + 1)
        | 'w' => toString ((days + 4) % 7)
        | 'A' => dayNames.getD (days % 7) ""
        | 'a' => String.ofList ((dayNames.getD (days % 7) "").toList.take 3)
        | 'B' => monthNames.getD (date.month - 1) ""
        | 'b' | 'h' => String.ofList ((monthNames.getD (date.month - 1) "").toList.take 3)
        | 'Z' => "UTC"
        | 'z' => "+0000"
        | 'n' => "\n"
        | 't' => "\t"
        | '%' => "%"
        | 'F' => again "%Y-%m-%d"
        | 'T' => again "%H:%M:%S"
        | 'R' => again "%H:%M"
        | 'D' | 'x' => again "%m/%d/%y"
        | 'X' => again "%H:%M:%S"
        | 'r' => again "%I:%M:%S %p"
        | 'c' => again "%a %b %e %H:%M:%S %Y"
        | letter => String.ofList ['%', letter]
      text ++ momentText fuel seconds rest
    | c :: rest => c.toString ++ momentText fuel seconds rest
    | [] => ""

end Runbook.Shell

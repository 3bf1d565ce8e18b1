import Runbook.Shell.DateForm
import Runbook.Shell.Utility.Lines

/-!
# Telling the time

A program tells the present moment or another one in a form.
-/

namespace Runbook.Shell

/-- The moment that a text tells: seconds behind a mark, or a date that may have a time. -/
def momentOf? (now : Nat) (text : String) : Option Nat :=
  match text.toList with
  | '@' :: digits => readNat? 10 digits
  | _ =>
    if text = "now" || text = "" then some now
    else
      match text.splitOn " " with
      | [date] => dateSeconds? date
      | [date, time] => do return (← dateSeconds? date) + (← timeSeconds? time)
      | _ => none
where
  dateSeconds? (text : String) : Option Nat :=
    match (text.splitOn "-").map fun part => readNat? 10 part.toList with
    | [some year, some month, some day] =>
      (Date.ofNumbers? year month day).bind fun date =>
        if year < firstDay.year then none
        else some ((date.dayNumber - firstDay.dayNumber) * 86400)
    | _ => none
  timeSeconds? (text : String) : Option Nat :=
    match (text.splitOn ":").map fun part => readNat? 10 part.toList with
    | [some hour, some minute] => some (hour * 3600 + minute * 60)
    | [some hour, some minute, some second] => some (hour * 3600 + minute * 60 + second)
    | _ => none

/-- Tells the present moment or another one. -/
def date : Program := fun _ =>
  withOptions ⟨"ud:RI::r:", [("utc", 'u'), ("universal", 'u'), ("date", 'd'), ("rfc-email", 'R'),
    ("iso-8601", 'I')], false⟩ 1 fun options operands => do
      let now := clockStart + (← Act.look fun state => state.clock) / 1000000
      let told := (lastValue? options 'd').getD "now"
      let form? : Option String :=
        match operands with
        | [] =>
          if hasOption options 'R' then some "%a, %d %b %Y %T %z"
          else
            match lastValue? options 'I' with
            | some "seconds" => some "%FT%T+00:00"
            | some _ => some "%F"
            | none => some "%a %b %e %T %Z %Y"
        | form :: _ =>
          if form.startsWith "+" then some (String.ofList (form.toList.drop 1)) else none
      match form?, momentOf? now told with
      | none, _ =>
        report ("invalid date ‘" ++ operands.headD "" ++ "’")
        return 1
      | _, none =>
        report ("invalid date ‘" ++ told ++ "’")
        return 1
      | some form, some moment =>
        say 1 (momentText (form.length + 8) moment form.toList ++ "\n")
        return 0

end Runbook.Shell

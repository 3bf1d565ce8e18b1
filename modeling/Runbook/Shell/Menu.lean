import Runbook.Number.Written
import Runbook.Number.Reading

/-!
# Menus

A loop may ask which of its words is meant. The words are shown in columns, each behind its number.
-/

namespace Runbook.Shell

/-- The width of the places that a tabulator leads to. -/
def tabulatorWidth : Nat := 8

/-- Blanks from one cell to another; tabulators are used where they lead to. -/
def cellsBetween (fuel first last : Nat) : String :=
  match fuel with
  | 0 => ""
  | fuel + 1 =>
    if last ≤ first then ""
    else if first / tabulatorWidth < last / tabulatorWidth then
      "\t" ++ cellsBetween fuel (first + tabulatorWidth - first % tabulatorWidth) last
    else " " ++ cellsBetween fuel (first + 1) last

/-- A menu of words in so many cells. -/
def menuText (cells : Nat) (words : List String) : String :=
  let count := words.length
  let digits (n : Nat) : Nat := (decimalDigits n).length
  let width := (words.map String.length).foldl max 0 + digits count + 4
  let columns := max 1 (cells / width)
  let rows := (count + columns - 1) / columns
  let columns := (count + rows - 1) / rows
  let rows := if rows = 1 then columns else rows
  let entry (isFirst : Bool) (n : Nat) : String :=
    let width := digits (if isFirst then rows else count)
    String.ofList (padLeft width ' ' (decimalDigits (n + 1))) ++
      ") " ++ words.getD n ""
  let line (row : Nat) : String :=
    let places := (List.range count).filter fun n => n % rows = row
    String.join (places.zipIdx.map fun (n, column) =>
      let text := entry (column = 0) n
      let isLast := count ≤ n + rows
      if isLast then text
      else text ++ cellsBetween cells (column * width + text.length) ((column + 1) * width)) ++ "\n"
  String.join ((List.range rows).map line)

/-- The word that an answer chooses, if it is the number of one. -/
def chosenField (words : List String) (answer : String) : String :=
  let isBlank (c : Char) : Bool := c == ' ' || c == '\t'
  let digits := ((answer.toList.dropWhile isBlank).reverse.dropWhile isBlank).reverse
  match readNat? 10 digits with
  | some (n + 1) => words.getD n ""
  | _ => ""

end Runbook.Shell

import Runbook.Number.Written
import Runbook.Text.Blank
import Runbook.Text.Digit

/-!
# Reading numbers from free text

Numbers may stand between blanks and be written with the digits of any script. In an integer a
single underscore may stand between two digits, and the digits may follow the sign of their base.
-/

namespace Runbook

/-- The blanks around a number in a text of ASCII characters only. -/
def isAsciiSpace (c : Char) : Bool := c == ' ' || ('\t' ≤ c && c ≤ '\r')

/-- The text of a number without the blanks around it, its digits in ASCII. -/
def bareNumber (s : List Char) : List Char :=
  if s.all fun c => c.toNat < 128 then
    ((s.dropWhile isAsciiSpace).reverse.dropWhile isAsciiSpace).reverse
  else (Text.trim s).map Text.asciiDigit

/-- The digits of a text in which single underscores may divide digits. -/
def joinDigits? : List Char → Option (List Char)
  | [] => none
  | ['_'] => none
  | [c] => some [c]
  | '_' :: _ => none
  | c :: '_' :: rest => (joinDigits? rest).map (c :: ·)
  | c :: rest => (joinDigits? rest).map (c :: ·)

/-- The letter that marks a base behind a zero. -/
def baseLetter? (base : Nat) : Option Char :=
  if base = 2 then some 'b' else if base = 8 then some 'o' else if base = 16 then some 'x' else none

/-- The digits behind the mark of their base, which may be absent. -/
def dropBaseMark (base : Nat) (s : List Char) : List Char :=
  match s with
  | '0' :: letter :: rest =>
    if some letter.toLower = baseLetter? base then
      (match rest with
      | '_' :: digits => digits
      | digits => digits)
    else s
  | _ => s

/-- The greatest number of digits of an integer whose base is no power of two. -/
def maxDigits : Nat := 4300

/-- The integer that a text holds in the given base. -/
def readInteger? (base : Nat) (s : List Char) : Option Int :=
  let (negative, body) := splitSign (bareNumber s)
  match joinDigits? (dropBaseMark base body) with
  | none => none
  | some digits =>
    if base = 10 ∧ maxDigits < digits.length then none
    else (readNat? base digits).map fun n => if negative then -(n : Int) else n

/-- The number that a text holds: a decimal, an infinity, or no number by name. -/
def readReal? (s : List Char) : Option Binary64 :=
  let (negative, body) := splitSign (bareNumber s)
  let name := String.ofList (body.map Char.toLower)
  if name = "inf" ∨ name = "infinity" then some (.infinite negative)
  else if name = "nan" then some .nan
  else if body.head?.all fun c => c.isDigit || c == '.' then
    (readDecimal? body).map fun x => if negative then x.neg else x
  else none

end Runbook

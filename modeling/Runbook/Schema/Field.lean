import Runbook.Data.Value
import Runbook.Number.Reading
import Runbook.Schema.Problem

/-!
# Reading fields

A field is read from a decoded value, with some leniency: an integer may be given by a boolean, a
number without a fraction, or a text; a boolean by zero and one or by a word. What does not fit is
reported with its place, and all parts of a list or a record are read before the problems are.
-/

namespace Runbook

/-- What was read, or the problems that it has. -/
abbrev Checked (α : Type) := Except (List Problem) α

namespace Checked

variable {α β : Type}

/-- The problems of a reading. -/
def problems : Checked α → List Problem
  | .ok _ => []
  | .error found => found

/-- A single problem of the value at hand. -/
def fail (mismatch : Mismatch) : Checked α := .error [.here mismatch]

/-- A reading as seen from the value around it. -/
def under (name : String) (reading : Checked α) : Checked α :=
  reading.mapError fun found => found.map (Problem.under name)

/-- Joins two readings: both must fit, and the problems of both are reported. -/
def both : Checked α → Checked β → Checked (α × β)
  | .ok a, .ok b => .ok (a, b)
  | first, second => .error (first.problems ++ second.problems)

/-- Joins the readings of a list. -/
def all : List (Checked α) → Checked (List α)
  | [] => .ok []
  | first :: others => (both first (all others)).map fun (item, items) => item :: items

end Checked

namespace Field

variable {α : Type}

/-- The least integer of 64 bits. -/
def minWord : Int := -9223372036854775808

/-- The greatest integer of 64 bits. -/
def maxWord : Int := 9223372036854775807

/-- Whether a character stands around a number in a text. -/
def isSpace (c : Char) : Bool := Text.isBlank c && !(0x1C ≤ c.toNat && c.toNat ≤ 0x1F)

/-- The text without spaces at either end. -/
def bare (s : List Char) : List Char :=
  ((s.dropWhile isSpace).reverse.dropWhile isSpace).reverse

/-- The text behind the leading zeros of a number, among which underscores may stand. Behind a zero
that only a point or nothing follows the zero stays, and so does a last underscore. -/
def dropZeros (last : Char) : List Char → Option (List Char)
  | [] => some [last]
  | c :: rest =>
    if c == '0' || c == '_' then dropZeros c rest
    else if c == '.' then some (last :: c :: rest)
    else if c.isDigit || c == '-' then some (c :: rest)
    else none

/-- The number without its leading zeros, which may stand behind a minus sign. It has to start with
a digit. -/
def withoutZeros? : List Char → Option (List Char)
  | [] => none
  | c :: rest =>
    if c == '-' then (withoutZeros? rest).map (c :: ·)
    else if c == '0' then dropZeros c rest
    else if c.isDigit then some (c :: rest)
    else none

/-- The text without a point and the zeros behind it, of which there is at least one. -/
def dropPoint (s : List Char) : List Char :=
  match s.dropWhile (· != '.') with
  | _ :: '0' :: zeros => if zeros.all (· == '0') then s.takeWhile (· != '.') else s
  | _ => s

/-- Whether underscores stand alone and inside of a text. -/
def dividesWell (s : List Char) : Bool :=
  s.head? != some '_' && s.getLast? != some '_'
    && (s.zip s.tail).all fun (a, b) => a != '_' || b != '_'

/-- The text of a number without spaces around it and without needless signs, zeros and
underscores. -/
def bareInteger? (s : List Char) : Option (List Char) := do
  let s := bare s
  let s ←
    match s with
    | '+' :: '-' :: _ => none
    | '+' :: rest => some rest
    | _ => some s
  let s := dropPoint (← withoutZeros? s)
  if dividesWell s then some (s.filter (· != '_')) else none

/-- The integer that a text holds: digits behind at most one minus sign, not too many of them. -/
def intOfText (s : String) : Checked Int :=
  match bareInteger? s.toList with
  | none => .fail .intParsing
  | some text =>
    let (negative, body) :=
      match text with
      | '-' :: body => (true, body)
      | body => (false, body)
    let digits := body.takeWhile Char.isDigit
    match digits with
    | [] | '0' :: _ :: _ => .fail .intParsing
    | _ =>
      if maxDigits < digits.length then .fail .intParsingSize
      else if digits.length < body.length then .fail .intParsing
      else
        let n := (readNat? 10 digits).getD 0
        .ok (if negative then -(n : Int) else n)

/-- The integer that a number without a fraction is, strictly inside of 64 bits. -/
def intOfFloat (x : Binary64) : Checked Int :=
  if !x.isFinite then .fail .finiteNumber
  else
    match x.toInt? with
    | none => .fail .intFromFloat
    | some i => if minWord < i ∧ i ≤ maxWord then .ok i else .fail .intParsingSize

/-- Reads an integer. -/
def int : Value → Checked Int
  | .scalar (.int i) => .ok i
  | .scalar (.bool b) => .ok (if b then 1 else 0)
  | .scalar (.float x) => intOfFloat x
  | .scalar (.str s) => intOfText s
  | _ => .fail .intType

/-- Reads a text. -/
def text : Value → Checked String
  | .scalar (.str s) => .ok s
  | _ => .fail .stringType

/-- Reads a path. -/
def path : Value → Checked String
  | .scalar (.str s) => .ok s
  | _ => .fail .pathType

/-- The words that stand for a boolean, in any case. -/
def boolOfWord? (s : String) : Option Bool :=
  let word := String.ofList (s.toList.map Char.toLower)
  if ["1", "t", "true", "y", "yes", "on"].contains word then some true
  else if ["0", "f", "false", "n", "no", "off"].contains word then some false
  else none

/-- The boolean that zero or one is. -/
def boolOfInt (i : Int) : Checked Bool :=
  if i = 0 then .ok false else if i = 1 then .ok true else .fail .boolParsing

/-- Reads a boolean. -/
def bool : Value → Checked Bool
  | .scalar (.bool b) => .ok b
  | .scalar (.str s) =>
    match boolOfWord? s with
    | some b => .ok b
    | none => .fail .boolParsing
  | .scalar (.int i) => if minWord ≤ i ∧ i ≤ maxWord then boolOfInt i else .fail .boolType
  | .scalar (.float x) =>
    match intOfFloat x with
    | .ok i => boolOfInt i
    | .error _ => .fail .boolType
  | _ => .fail .boolType

/-- Reads null as nothing, and another value as the reader does. -/
def nullable (read : Value → Checked α) : Value → Checked (Option α)
  | .scalar .null => .ok none
  | value => (read value).map some

/-- Reads a name out of a closed list. -/
def named (ofName? : String → Option α) : Value → Checked α
  | .scalar (.str s) =>
    match ofName? s with
    | some a => .ok a
    | none => .fail .enumValue
  | _ => .fail .enumValue

/-- The readings of items, each under its position. -/
def itemsFrom (read : Value → Checked α) (position : Nat) : List Value → List (Checked α)
  | [] => []
  | item :: items =>
    (read item).under (decimalText position) :: itemsFrom read (position + 1) items

/-- Reads a list; another value is the mismatch. -/
def list (mismatch : Mismatch) (read : Value → Checked α) : Value → Checked (List α)
  | .list items => .all (itemsFrom read 0 items)
  | _ => .fail mismatch

/-- The entries of a mapping; another value is the mismatch. -/
def mapping (mismatch : Mismatch) : Value → Checked (List (Scalar × Value))
  | .map entries => .ok entries
  | _ => .fail mismatch

/-- Reads a field of a record that must be there. -/
def required (name : String) (read : Value → Checked α) (entries : List (Scalar × Value)) :
    Checked α :=
  match Value.find? (.str name) entries with
  | some value => (read value).under name
  | none => (Checked.fail .missing).under name

/-- Reads a field of a record that has a default. -/
def optional (name : String) (default : α) (read : Value → Checked α)
    (entries : List (Scalar × Value)) : Checked α :=
  match Value.find? (.str name) entries with
  | some value => (read value).under name
  | none => .ok default

end Field

end Runbook

import Runbook.Json.Printer

/-!
# Reading plain data

A reader takes characters and returns what it read with the characters left over. A number with a
point or an exponent is a double, any other number an integer of any size. When a key of an object
comes again, its last value takes the place of the first.
-/

namespace Runbook.Json

/-- The blanks between the marks of a plain-data text. -/
def isSpace (c : Char) : Bool := c == ' ' || c == '\t' || c == '\n' || c == '\r'

/-- The text without leading blanks. -/
def skipSpace (s : List Char) : List Char := s.dropWhile isSpace

/-- The UTF-16 unit that four digits of base sixteen stand for. -/
def readUnit? (a b c d : Char) : Option Nat := readNat? 16 [a, b, c, d]

/-- Whether a unit is the first half of a pair. -/
def isHighHalf (n : Nat) : Bool := 0xD800 ≤ n && n < 0xDC00

/-- Whether a unit is the second half of a pair. -/
def isLowHalf (n : Nat) : Bool := 0xDC00 ≤ n && n < 0xE000

/-- The character behind a backslash that stands for itself or a control character. -/
def simpleEscape? (c : Char) : Option Char :=
  if c == '\x22' || c == '\\' || c == '/' then some c
  else if c == 'b' then some '\x08'
  else if c == 'f' then some '\x0C'
  else if c == 'n' then some '\n'
  else if c == 'r' then some '\r'
  else if c == 't' then some '\t'
  else none

/-- Reads the rest of a string up to its closing quote. Halves of pairs stand only as pairs. -/
def readString (fuel : Nat) (s : List Char) : Option (List Char × List Char) :=
  match fuel with
  | 0 => none
  | fuel + 1 =>
    match s with
    | [] => none
    | '\x22' :: rest => some ([], rest)
    | '\\' :: 'u' :: a :: b :: c :: d :: rest =>
      match readUnit? a b c d with
      | none => none
      | some high =>
        if isHighHalf high then
          match rest with
          | '\\' :: 'u' :: e :: f :: g :: h :: rest =>
            match readUnit? e f g h with
            | none => none
            | some low =>
              if isLowHalf low then
                (readString fuel rest).map fun (body, after) =>
                  (Char.ofNat (0x10000 + (high - 0xD800) * 0x400 + (low - 0xDC00)) :: body, after)
              else none
          | _ => none
        else if isLowHalf high then none
        else (readString fuel rest).map fun (body, after) => (Char.ofNat high :: body, after)
    | '\\' :: c :: rest =>
      match simpleEscape? c with
      | none => none
      | some plain => (readString fuel rest).map fun (body, after) => (plain :: body, after)
    | c :: rest =>
      if c.toNat < 0x20 then none
      else (readString fuel rest).map fun (body, after) => (c :: body, after)

/-- The characters that numbers are made of. -/
def isNumberChar (c : Char) : Bool :=
  c.isDigit || c == '+' || c == '-' || c == '.' || c == 'e' || c == 'E'

/-- The number written by the characters: a double if they hold a point or an exponent. -/
def number? (s : List Char) : Option Json :=
  if s.any fun c => c == '.' || c == 'e' || c == 'E' then (readDecimal? s).map .float
  else
    let (negative, digits) := splitSign s
    (readNat? 10 digits).map fun n => .int (if negative then -(n : Int) else n)

mutual

/-- Reads one value behind optional blanks. -/
def readValue (fuel : Nat) (s : List Char) : Option (Json × List Char) :=
  match fuel with
  | 0 => none
  | fuel + 1 =>
    match skipSpace s with
    | 'n' :: 'u' :: 'l' :: 'l' :: rest => some (.null, rest)
    | 't' :: 'r' :: 'u' :: 'e' :: rest => some (.bool true, rest)
    | 'f' :: 'a' :: 'l' :: 's' :: 'e' :: rest => some (.bool false, rest)
    | 'N' :: 'a' :: 'N' :: rest => some (.float .nan, rest)
    | 'I' :: 'n' :: 'f' :: 'i' :: 'n' :: 'i' :: 't' :: 'y' :: rest =>
      some (.float (.infinite false), rest)
    | '-' :: 'I' :: 'n' :: 'f' :: 'i' :: 'n' :: 'i' :: 't' :: 'y' :: rest =>
      some (.float (.infinite true), rest)
    | '\x22' :: rest =>
      (readString (rest.length + 1) rest).map fun (body, after) =>
        (.str (String.ofList body), after)
    | '[' :: rest =>
      match skipSpace rest with
      | ']' :: after => some (.arr [], after)
      | _ => (readItems fuel rest).map fun (items, after) => (.arr items, after)
    | '\x7b' :: rest =>
      match skipSpace rest with
      | '\x7d' :: after => some (.obj [], after)
      | _ => (readMembers fuel rest).map fun (members, after) =>
          (.obj (mergeMembers [] members), after)
    | other =>
      (number? (other.takeWhile isNumberChar)).map fun n => (n, other.dropWhile isNumberChar)

/-- Reads items up to the closing bracket. -/
def readItems (fuel : Nat) (s : List Char) : Option (List Json × List Char) :=
  match fuel with
  | 0 => none
  | fuel + 1 =>
    match readValue fuel s with
    | none => none
    | some (item, rest) =>
      match skipSpace rest with
      | ']' :: after => some ([item], after)
      | ',' :: after => (readItems fuel after).map fun (items, rest) => (item :: items, rest)
      | _ => none

/-- Reads members up to the closing brace. -/
def readMembers (fuel : Nat) (s : List Char) : Option (List (String × Json) × List Char) :=
  match fuel with
  | 0 => none
  | fuel + 1 =>
    match skipSpace s with
    | '\x22' :: rest =>
      match readString (rest.length + 1) rest with
      | none => none
      | some (key, rest) =>
        match skipSpace rest with
        | ':' :: rest =>
          match readValue fuel rest with
          | none => none
          | some (value, rest) =>
            match skipSpace rest with
            | '\x7d' :: after => some ([(String.ofList key, value)], after)
            | ',' :: after =>
              (readMembers fuel after).map fun (members, rest) =>
                ((String.ofList key, value) :: members, rest)
            | _ => none
        | _ => none
    | _ => none

end

/-- The value that a whole text holds. -/
def parse? (text : String) : Option Json :=
  let s := text.toList
  match readValue (2 * s.length + 2) s with
  | some (value, rest) => if (skipSpace rest).isEmpty then some value else none
  | none => none

end Runbook.Json

import Runbook.Json.Basic
import Runbook.Number.Written

/-!
# Writing plain data

The text holds ASCII characters only: every other character is written by its UTF-16 units. On one
line, items are divided by a comma and a space. With an indentation every item stands on a line
of its own, and an empty list or object stays closed.
-/

namespace Runbook.Json

/-- A digit of base sixteen in lower case. -/
def hexDigit (n : Nat) : Char := if n < 10 then Char.ofNat (48 + n) else Char.ofNat (87 + n)

/-- Four digits of base sixteen. -/
def hex4 (n : Nat) : List Char :=
  [hexDigit (n / 4096 % 16), hexDigit (n / 256 % 16), hexDigit (n / 16 % 16), hexDigit (n % 16)]

/-- A UTF-16 unit as an escape. -/
def unitEscape (n : Nat) : List Char := '\\' :: 'u' :: hex4 n

/-- One character of a written string. -/
def escapeChar (c : Char) : List Char :=
  if c == '\x22' then ['\\', '\x22']
  else if c == '\\' then ['\\', '\\']
  else if c == '\n' then ['\\', 'n']
  else if c == '\r' then ['\\', 'r']
  else if c == '\t' then ['\\', 't']
  else if c == '\x08' then ['\\', 'b']
  else if c == '\x0C' then ['\\', 'f']
  else if 0x20 ≤ c.toNat ∧ c.toNat ≤ 0x7E then [c]
  else if c.toNat < 0x10000 then unitEscape c.toNat
  else
    let beyond := c.toNat - 0x10000
    unitEscape (0xD800 + beyond / 0x400) ++ unitEscape (0xDC00 + beyond % 0x400)

/-- One code point of a written string; half a character is an escape of its own. -/
def escapeCode (n : Nat) : List Char :=
  if 0xD800 ≤ n ∧ n < 0xE000 then unitEscape n else escapeChar (Char.ofNat n)

/-- A string between quotes. -/
def quoted (s : String) : List Char := '\x22' :: (s.toList.flatMap escapeChar ++ ['\x22'])

/-- Code points between quotes. -/
def quotedCodes (codes : List Nat) : List Char := '\x22' :: (codes.flatMap escapeCode ++ ['\x22'])

/-- Where items are placed: one line, or a line each with so many blanks for each level. -/
inductive Layout where
  | line
  | indented (width : Nat)
  deriving DecidableEq, Repr

namespace Layout

/-- An indentation below zero places items at the margin. -/
def ofIndent : Option Int → Layout
  | none => .line
  | some width => .indented width.toNat

/-- What stands before an item of a container at the given depth. -/
def margin : Layout → Nat → List Char
  | .line, _ => []
  | .indented width, depth => '\n' :: List.replicate (width * depth) ' '

/-- What divides two items. -/
def divider : Layout → List Char
  | .line => [',', ' ']
  | .indented _ => [',']

end Layout

/-- The written items between brackets, at the depth of their container. -/
def bracketed (layout : Layout) (depth : Nat) (opening closing : Char)
    (items : List (List Char)) : List Char :=
  match items with
  | [] => [opening, closing]
  | first :: others =>
    opening :: layout.margin (depth + 1) ++ first
      ++ others.flatMap (fun item => layout.divider ++ layout.margin (depth + 1) ++ item)
      ++ layout.margin depth ++ [closing]

mutual

/-- The characters of a value inside containers of the given depth. -/
def chars (layout : Layout) (depth : Nat) : Json → List Char
  | .null => ['n', 'u', 'l', 'l']
  | .bool true => ['t', 'r', 'u', 'e']
  | .bool false => ['f', 'a', 'l', 's', 'e']
  | .int i => (decimalText i).toList
  | .float x => (x.render "Infinity" "NaN").toList
  | .str s => quoted s
  | .halved codes => quotedCodes codes
  | .arr items => bracketed layout depth '[' ']' (itemChars layout (depth + 1) items)
  | .obj members => bracketed layout depth '\x7b' '\x7d' (memberChars layout (depth + 1) members)

/-- The characters of each item. -/
def itemChars (layout : Layout) (depth : Nat) : List Json → List (List Char)
  | [] => []
  | item :: items => chars layout depth item :: itemChars layout depth items

/-- The characters of each member: its key, a colon and a space, its value. -/
def memberChars (layout : Layout) (depth : Nat) : List (String × Json) → List (List Char)
  | [] => []
  | (key, value) :: members =>
    (quoted key ++ ':' :: ' ' :: chars layout depth value) :: memberChars layout depth members

end

/-- The text of a value. -/
def render (layout : Layout) (value : Json) : String := String.ofList (chars layout 0 value)

end Runbook.Json

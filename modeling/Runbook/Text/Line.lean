import Runbook.Text.Blank

/-!
# Lines of a text

A text is cut in two ways. `lines` cuts after every line break of the wide set, a carriage return
and the line feed behind it counting as one break, and keeps the breaks. `pieces` cuts at line
feeds only and drops them.
-/

namespace Runbook.Text

/-- The characters that end a line. -/
def isLineBreak (c : Char) : Bool :=
  (0x0A ≤ c.toNat && c.toNat ≤ 0x0D) || (0x1C ≤ c.toNat && c.toNat ≤ 0x1E) || c.toNat == 0x85
    || c.toNat == 0x2028 || c.toNat == 0x2029

/-- Whether the line ends behind `c` when `rest` follows: a carriage return leaves the end to a
line feed right behind it. -/
def endsLine (c : Char) (rest : List Char) : Bool :=
  isLineBreak c && !(c == '\r' && rest.head? == some '\n')

/-- The lines of a text, each with its own end; their concatenation is the text. -/
def lines : List Char → List (List Char)
  | [] => []
  | c :: rest => if endsLine c rest then [c] :: lines rest else extendFirst c (lines rest)

/-- The parts of a text between the places of a mark, one more than there are marks. -/
def splitOn (mark : Char) : List Char → List (List Char)
  | [] => [[]]
  | c :: rest => if c == mark then [] :: splitOn mark rest else extendFirst c (splitOn mark rest)

/-- The parts of a text between its line feeds. -/
def pieces (s : List Char) : List (List Char) := splitOn '\n' s

/-- The strings between the places of a mark in a string. -/
def splitString (mark : Char) (s : String) : List String :=
  (splitOn mark s.toList).map String.ofList

/-- Writes every carriage return, alone or before a line feed, as one line feed. -/
def unifyNewlines : List Char → List Char
  | [] => []
  | '\r' :: '\n' :: rest => '\n' :: unifyNewlines rest
  | '\r' :: rest => '\n' :: unifyNewlines rest
  | c :: rest => c :: unifyNewlines rest

/-- The texts joined, a separator between neighbours. -/
def joinWith (separator : List Char) : List (List Char) → List Char
  | [] => []
  | [part] => part
  | part :: next :: parts => part ++ separator ++ joinWith separator (next :: parts)

end Runbook.Text

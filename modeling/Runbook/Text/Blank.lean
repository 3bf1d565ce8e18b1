/-!
# Blank characters and words

The blank characters are those that separate words: the ASCII controls from tab to carriage
return and from file separator to unit separator, the space, and the spaces and separators of
the other scripts. A zero-width space and a byte-order mark are not blank.
-/

namespace Runbook.Text

/-- The blank code points, as closed ranges in increasing order. -/
def blankRanges : List (Nat × Nat) :=
  [(0x09, 0x0D), (0x1C, 0x20), (0x85, 0x85), (0xA0, 0xA0), (0x1680, 0x1680), (0x2000, 0x200A),
   (0x2028, 0x2029), (0x202F, 0x202F), (0x205F, 0x205F), (0x3000, 0x3000)]

/-- Whether a character separates words. -/
def isBlank (c : Char) : Bool :=
  blankRanges.any fun range => range.1 ≤ c.toNat && c.toNat ≤ range.2

/-- Whether a text holds blank characters only. -/
def allBlank (s : List Char) : Bool := s.all isBlank

/-- The text without its leading blanks. -/
def trimStart (s : List Char) : List Char := s.dropWhile isBlank

/-- The text without its trailing blanks. -/
def trimEnd (s : List Char) : List Char := (s.reverse.dropWhile isBlank).reverse

/-- The text without blanks at either end. -/
def trim (s : List Char) : List Char := trimEnd (trimStart s)

/-- Puts a character in front of the first part, opening a part when there is none. -/
def extendFirst (c : Char) : List (List Char) → List (List Char)
  | [] => [[c]]
  | part :: parts => (c :: part) :: parts

/-- The maximal runs of characters that are not blank, in order. -/
def words : List Char → List (List Char)
  | [] => []
  | [c] => if isBlank c then [] else [[c]]
  | c :: d :: rest =>
    if isBlank c then words (d :: rest)
    else if isBlank d then [c] :: words (d :: rest)
    else extendFirst c (words (d :: rest))

/-- A string without blanks at either end. -/
def trimString (s : String) : String := String.ofList (trim s.toList)

end Runbook.Text

import Runbook.Console.Span
import Runbook.Text.Line

/-!
# Laying out text on a console

A text is cut at its line feeds, tabs are replaced by blanks, and each line is broken between
words where the next word does not fit without its trailing blanks. A word longer than a line
starts on its own line; it is cut at the width, or left to be truncated.
-/

namespace Runbook.Console

/-- What happens to a word that is longer than a line. -/
inductive Overflow where
  | fold
  | ellipsis
  deriving DecidableEq, Repr

/-- The control characters that are never written. -/
def isDropped (c : Char) : Bool :=
  let n := c.toNat
  n == 7 || n == 8 || n == 11 || n == 12 || n == 13

/-- The text without the control characters that are never written. -/
def dropControls (s : List Char) : List Char := s.filter fun c => !isDropped c

/-- The parts of a line with blanks up to the next multiple of eight cells between them; `column` is
the number of cells before the first, and a tab at the end of a part is its first blank. -/
def joinTabbed (column : Nat) : List StyledText → StyledText
  | [] => .ofText []
  | part :: parts =>
    if part.text.getLast? = some '\t' then
      let part := part.withText (part.text.dropLast ++ [' '])
      let place := column + width part.text
      let blanks := (8 - place % 8) % 8
      (part.extend blanks).append (joinTabbed (place + blanks) parts)
    else part.append (joinTabbed (column + width part.text) parts)

/-- The line with each tab replaced by at least one blank, up to the next multiple of eight
cells. -/
def expandTabs (line : StyledText) : StyledText :=
  if line.text.contains '\t' then joinTabbed 0 (line.splitBehind '\t') else line

/-- The words of a line, each with the blanks behind it; blanks in front belong to the first. -/
def wordsOf (fuel : Nat) (s : List Char) : List (List Char) :=
  match fuel with
  | 0 => []
  | fuel + 1 =>
    let lead := s.takeWhile Text.isBlank
    let body := (s.drop lead.length).takeWhile fun c => !Text.isBlank c
    if body.isEmpty then []
    else
      let rest := s.drop (lead.length + body.length)
      let trail := rest.takeWhile Text.isBlank
      (lead ++ body ++ trail) :: wordsOf fuel (rest.drop trail.length)

/-- The places where the parts of a chopped word start, when the word starts at `start`. -/
def partStarts (start : Nat) : List (List Char) → List Nat
  | [] => []
  | part :: parts => start :: partStarts (start + part.length) parts

/-- The places where a line is broken, counted in characters: `start` characters and `used` cells
of the present line stand before the words. -/
def breaks (cells : Nat) (overflow : Overflow) (start used : Nat) : List (List Char) → List Nat
  | [] => []
  | word :: words =>
    let next := start + word.length
    let length := width (Text.trimEnd word)
    if used + length ≤ cells then breaks cells overflow next (used + width word) words
    else if cells < length then
      match overflow with
      | .fold =>
        let parts := chop cells word
        (partStarts start parts).filter (· != 0)
          ++ breaks cells overflow next (width (parts.getLastD [])) words
      | .ellipsis =>
        (if start = 0 then [] else [start]) ++ breaks cells overflow next (width word) words
    else if used ≠ 0 ∧ start ≠ 0 then
      start :: breaks cells overflow next (width word) words
    else breaks cells overflow next used words

/-- The line without those of its trailing blanks that exceed the width. -/
def dropExcess (cells : Nat) (s : List Char) : List Char :=
  let blanks := (s.reverse.takeWhile Text.isBlank).length
  s.take (s.length - min blanks (s.length - cells))

/-- The line cut down to the width. -/
def truncate (cells : Nat) (overflow : Overflow) (s : List Char) : List Char :=
  if width s ≤ cells then s
  else
    match overflow with
    | .fold => crop cells s
    | .ellipsis => crop (cells - 1) s ++ ['…']

namespace StyledText

/-- The lines that one line of a text is broken into. -/
def wrapLine (cells : Nat) (overflow : Overflow) (line : StyledText) : List StyledText :=
  let line := expandTabs line
  let places := breaks cells overflow 0 0 (wordsOf (line.text.length + 1) line.text)
  (line.cut places).map fun part =>
    part.withText (truncate cells overflow (dropExcess cells part.text))

/-- The lines of a text on a console of the given width. -/
def wrap (cells : Nat) (overflow : Overflow) (t : StyledText) : List StyledText :=
  t.lines.flatMap (wrapLine cells overflow)

end StyledText

/-- The lines of a text without styles on a console of the given width. -/
def wrap (cells : Nat) (overflow : Overflow) (s : List Char) : List (List Char) :=
  ((StyledText.ofText (dropControls s)).wrap cells overflow).map StyledText.text

/-- Where a line stands in its column. -/
inductive Justify where
  | left
  | center
  | right
  deriving DecidableEq, Repr

/-- The line filled with blanks to the width. -/
def justify (cells : Nat) (overflow : Overflow) (place : Justify) (line : List Char) : List Char :=
  let blanks (n : Nat) : List Char := List.replicate n ' '
  match place with
  | .left =>
    let line := truncate cells overflow line
    line ++ blanks (cells - width line)
  | .right =>
    let line := truncate cells overflow (Text.trimEnd line)
    blanks (cells - width line) ++ line
  | .center =>
    let line := truncate cells overflow (Text.trimEnd line)
    let before := (cells - width line) / 2
    blanks before ++ line ++ blanks (cells - width line - before)

/-- A styled line filled with blanks to the width. -/
def StyledText.justify (cells : Nat) (overflow : Overflow) (line : StyledText) : StyledText :=
  line.withText (Console.justify cells overflow .left line.text)

/-- The text that lines leave on a console of the given width; without cells nothing is shown. -/
def printed (cells : Nat) (lines : List Line) : String :=
  if cells = 0 then "" else String.ofList (lines.flatMap fun line => line.crop cells ++ ['\n'])

end Runbook.Console

import Runbook.Text.Line

/-!
# Fenced blocks

A fence is a line that starts, behind at most three spaces, with three or more equal marks. The
block it opens ends at the first line that has at least as many of the same marks, again behind at
most three spaces, and only blanks after them.
-/

namespace Runbook

/-- The two characters that fences are drawn with. -/
inductive FenceMark where
  | backtick
  | tilde
  deriving DecidableEq, Repr

namespace FenceMark

/-- The character of a mark. -/
def char : FenceMark → Char
  | backtick => '\x60'
  | tilde => '~'

/-- The mark that a character draws. -/
def ofChar? (c : Char) : Option FenceMark :=
  if c == '\x60' then some backtick else if c == '~' then some tilde else none

end FenceMark

/-- A run of marks. -/
structure Fence where
  mark : FenceMark
  length : Nat
  deriving DecidableEq, Repr

namespace Fence

/-- The line behind its leading spaces, if they are at most three. -/
def afterMargin? (line : List Char) : Option (List Char) :=
  if (line.takeWhile (· == ' ')).length ≤ 3 then some (line.dropWhile (· == ' ')) else none

/-- The fence at the start of a line, with what stands behind it on the line. -/
def split? (line : List Char) : Option (Fence × List Char) :=
  match afterMargin? line with
  | some (c :: rest) =>
    match FenceMark.ofChar? c with
    | some mark =>
      let marks := (c :: rest).takeWhile (· == mark.char)
      if 3 ≤ marks.length then
        some (⟨mark, marks.length⟩, (c :: rest).dropWhile (· == mark.char))
      else none
    | none => none
  | _ => none

/-- The fence that a line opens; an info text may follow it. -/
def opening? (line : List Char) : Option Fence := (split? line).map Prod.fst

/-- Whether a line ends the block that the fence opened. -/
def closedBy (fence : Fence) (line : List Char) : Bool :=
  match split? line with
  | some (other, rest) => other.mark = fence.mark && fence.length ≤ other.length
      && Text.allBlank rest
  | none => false

/-- The lines of a block up to its closing line. -/
def body (fence : Fence) (lines : List (List Char)) : List (List Char) :=
  lines.takeWhile fun line => !fence.closedBy line

/-- What follows a block from its closing line on; nothing if the block is never closed. -/
def afterBody (fence : Fence) (lines : List (List Char)) : List (List Char) :=
  lines.dropWhile fun line => !fence.closedBy line

end Fence

end Runbook

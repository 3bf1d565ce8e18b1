import Runbook.Number.Reading
import Runbook.Number.Written
import Runbook.Shell.Script

/-!
# Alternatives in braces

In the extended language a word with alternatives in braces stands for several words, one for each
of them. Two numbers or letters with two dots between them stand for all from one to the other.
-/

namespace Runbook.Shell

/-- A piece of a word: a character that is not quoted, or any other segment. -/
inductive Piece where
  | char (c : Char)
  | other (segment : Segment)

namespace Piece

/-- The pieces of a word. -/
def ofWord (word : Word) : List Piece :=
  word.flatMap fun
    | .text chars false => chars.toList.map .char
    | segment => [.other segment]

/-- The word of pieces. -/
def toWord : List Piece → Word
  | [] => []
  | .char c :: rest => withText [c] false (toWord rest)
  | .other segment :: rest => segment :: toWord rest

/-- The character of a piece. -/
def char? : Piece → Option Char
  | char c => some c
  | other _ => none

end Piece

/-- The alternatives behind an opening brace, the pieces behind the closing one, and whether there
is a comma between them. The first alternative is under way. -/
def alternativesIn (depth : Nat) (current : List Piece) :
    List Piece → Option (List (List Piece) × List Piece)
  | [] => none
  | .char '\x7b' :: rest => alternativesIn (depth + 1) (.char '\x7b' :: current) rest
  | .char '\x7d' :: rest =>
    if depth = 0 then some ([current.reverse], rest)
    else alternativesIn (depth - 1) (.char '\x7d' :: current) rest
  | .char ',' :: rest =>
    if depth = 0 then
      (alternativesIn 0 [] rest).map fun (more, after) => (current.reverse :: more, after)
    else alternativesIn depth (.char ',' :: current) rest
  | piece :: rest => alternativesIn depth (piece :: current) rest

/-- The numbers from one to another one in steps. -/
def numbersBetween (first last step : Int) : List Int :=
  let step := if step = 0 then 1 else step.natAbs
  let count := (last - first).natAbs / step + 1
  (List.range count).map fun (n : Nat) =>
    if first ≤ last then first + n * step else first - n * step

/-- The number of digits that numbers are padded to, if one of the ends starts with a zero. -/
def rangeWidth (first last : String) : Nat :=
  let digits (text : String) : List Char :=
    if text.front == '-' then text.toList.drop 1 else text.toList
  let isPadded (text : String) : Bool := (digits text).head? = some '0' && 1 < (digits text).length
  if isPadded first || isPadded last then max first.length last.length else 0

/-- A number with zeros in front. -/
def paddedNumber (width : Nat) (n : Int) : String :=
  let digits := decimalDigits n.natAbs
  if n < 0 then String.ofList ('-' :: padLeft (width - 1) '0' digits)
  else String.ofList (padLeft width '0' digits)

/-- The texts that a range stands for. -/
def rangeTexts? (text : String) : Option (List String) :=
  let parts := text.splitOn ".."
  let step? : Option Int :=
    match parts with
    | [_, _] => some 1
    | [_, _, step] => step.toInt?
    | _ => none
  match parts, step? with
  | first :: last :: _, some step =>
    match first.toInt?, last.toInt?, first.toList, last.toList with
    | some a, some b, _, _ =>
      some ((numbersBetween a b step).map (paddedNumber (rangeWidth first last)))
    | none, none, [a], [b] =>
      if a.isAlpha && b.isAlpha then
        some ((numbersBetween a.toNat b.toNat step).map fun n =>
          String.ofList [Char.ofNat n.toNat])
      else none
    | _, _, _, _ => none
  | _, _ => none

/-- The words that pieces with braces stand for. -/
def braced (fuel : Nat) (pieces : List Piece) : List (List Piece) :=
  match fuel with
  | 0 => [pieces]
  | fuel + 1 =>
    match pieces with
    | [] => [[]]
    | .char '\x7b' :: rest =>
      let joined (alternatives : List (List Piece)) (after : List Piece) : List (List Piece) :=
        let tails := braced fuel after
        alternatives.flatMap fun front => tails.map fun tail => front ++ tail
      let plain := (braced fuel rest).map fun tail => .char '\x7b' :: tail
      match alternativesIn 0 [] rest with
      | some ([only], after) =>
        let text := String.ofList (only.filterMap Piece.char?)
        match if text.length = only.length then rangeTexts? text else none with
        | some texts => joined (texts.map fun text => text.toList.map .char) after
        | none =>
          let inner := braced fuel only
          joined (inner.map fun front => .char '\x7b' :: front ++ [.char '\x7d']) after
      | some (alternatives, after) => joined (alternatives.flatMap (braced fuel)) after
      | none => plain
    | piece :: rest => (braced fuel rest).map fun tail => piece :: tail

/-- The words that a word with braces stands for. -/
def bracedWords (word : Word) : List Word :=
  let pieces := Piece.ofWord word
  let opens : Bool := pieces.any fun piece => piece.char? = some '\x7b'
  if opens then (braced (pieces.length + 1) pieces).map Piece.toWord else [word]

end Runbook.Shell

import Runbook.Console.Span
import Runbook.Text.Digit
import Runbook.Text.Word

/-!
# Highlights

Numbers, addresses, paths, quoted texts and the like are shown in styles of their own. A pattern
says what they look like; it is tried at each place of a text, takes the first of its readings, and
goes on behind it. What a pattern marks becomes a span. The cells of a text depend on its spans only
where a joiner or a selector of pictures could stand at an end of one, so only such a text is
searched.
-/

namespace Runbook.Console

/-- What a part of a text looks like. -/
inductive Pattern where
  | nothing
  | one (accepts : Char → Bool)
  | border (accepts : Option Char → Option Char → Bool)
  | both (first second : Pattern)
  | either (first second : Pattern)
  | times (least : Nat) (most : Option Nat) (pattern : Pattern)
  | longRun (accepts : Char → Bool)
  | shortRun (accepts : Char → Bool)
  | marked (pattern : Pattern)

/-- A place of a text: the number of characters in front, the last of them, the characters behind,
and the spans marked so far. -/
structure Spot where
  place : Nat
  before : Option Char
  rest : List Char
  spans : List Span

namespace Spot

/-- The place so many characters farther. -/
def skip (count : Nat) (spot : Spot) : Spot :=
  { spot with
    place := spot.place + count
    before := (spot.rest.take count).getLast?.or spot.before
    rest := spot.rest.drop count }

/-- Marks the characters from a place up to here. -/
def mark (start : Nat) (spot : Spot) : Spot :=
  if start < spot.place then { spot with spans := ⟨start, spot.place⟩ :: spot.spans } else spot

/-- The number of characters behind the place that are accepted. -/
def count (accepts : Char → Bool) (spot : Spot) : Nat := (spot.rest.takeWhile accepts).length

end Spot

/-- Takes a step at least and at most so many times, as often as what comes next allows. -/
def repeatStep (step : Spot → (Spot → Option Spot) → Option Spot) (least most : Nat) (spot : Spot)
    (next : Spot → Option Spot) : Option Spot :=
  match most with
  | 0 => if least = 0 then next spot else none
  | most + 1 =>
    match step spot fun spot => repeatStep step (least - 1) most spot next with
    | some found => some found
    | none => if least = 0 then next spot else none

namespace Pattern

/-- The first reading of a pattern at a place behind which something else goes on. -/
def read (pattern : Pattern) (spot : Spot) (next : Spot → Option Spot) : Option Spot :=
  match pattern with
  | nothing => next spot
  | one accepts => if spot.rest.head?.any accepts then next (spot.skip 1) else none
  | border accepts => if accepts spot.before spot.rest.head? then next spot else none
  | both first second => first.read spot fun spot => second.read spot next
  | either first second =>
    match first.read spot next with
    | some found => some found
    | none => second.read spot next
  | times least most pattern =>
    repeatStep pattern.read least (most.getD spot.rest.length) spot next
  | longRun accepts =>
    (List.range (spot.count accepts + 1)).reverse.findSome? fun n => next (spot.skip n)
  | shortRun accepts => (List.range (spot.count accepts + 1)).findSome? fun n => next (spot.skip n)
  | marked pattern => pattern.read spot fun after => next (after.mark spot.place)

/-- The spans that a pattern marks in a text. -/
def spansFrom (fuel : Nat) (pattern : Pattern) (spot : Spot) : List Span :=
  match fuel, spot.rest with
  | 0, _ | _, [] => spot.spans
  | fuel + 1, _ =>
    match pattern.read spot some with
    | some after =>
      spansFrom fuel pattern (if after.place = spot.place then after.skip 1 else after)
    | none => spansFrom fuel pattern (spot.skip 1)

/-- One pattern behind the other. -/
def chain (patterns : List Pattern) : Pattern := patterns.foldr both nothing

/-- The first of the patterns that fits. -/
def firstOf : List Pattern → Pattern
  | [] => one fun _ => false
  | [pattern] => pattern
  | pattern :: patterns => either pattern (firstOf patterns)

/-- A pattern or nothing. -/
def maybe (pattern : Pattern) : Pattern := times 0 (some 1) pattern

/-- A character. -/
def char (c : Char) : Pattern := one (· == c)

/-- A text as it is. -/
def exactly (s : String) : Pattern := chain (s.toList.map char)

/-- One or more characters, as many as can be. -/
def run (accepts : Char → Bool) : Pattern := both (one accepts) (longRun accepts)

/-- One or more characters, as few as can be. -/
def fewest (accepts : Char → Bool) : Pattern := both (one accepts) (shortRun accepts)

/-- Where a word starts or ends, or where none does. -/
def wordBorder (isBorder : Bool) : Pattern :=
  border fun before after => (before.any Text.isWordChar != after.any Text.isWordChar) == isBorder

/-- Where no accepted character stands in front. -/
def notBehind (accepts : Char → Bool) : Pattern := border fun before _ => !before.any accepts

end Pattern

open Pattern

/-- A digit of base sixteen. -/
def isHexDigit (c : Char) : Bool := c.isDigit || ('a' ≤ c && c ≤ 'f') || ('A' ≤ c && c ≤ 'F')

/-- A character of a word or one of some others. -/
def isWordOr (others : String) (c : Char) : Bool := Text.isWordChar c || others.toList.contains c

/-- At least and at most so many digits of base sixteen. -/
def hexDigits (least most : Nat) : Pattern := times least (some most) (one isHexDigit)

/-- Groups of digits of base sixteen: so many with a mark behind each, and a last one. -/
def hexGroups (count least most : Nat) (mark : Char) : Pattern :=
  both (times count (some count) (both (hexDigits least most) (char mark))) (hexDigits least most)

/-- The address of a device: so many pairs of digits, or so many groups of four, before the last. -/
def deviceAddress (pairs fours : Nat) : Pattern :=
  marked (firstOf [hexGroups pairs 1 2 '-', hexGroups pairs 1 2 ':', hexGroups fours 4 4 '.'])

/-- One to three digits. -/
def shortNumber : Pattern := times 1 (some 3) (one Char.isDigit)

/-- A digit of any script. -/
def isAnyDigit (c : Char) : Bool := (Text.digit? c).isSome

/-- Digits with a point and more digits behind, if there are any, and an exponent. -/
def decimal (exponentDigits : Pattern) : Pattern :=
  chain [run Char.isDigit, maybe (char '.'), longRun Char.isDigit,
    maybe (chain [char 'e', maybe (one fun c => c == '-' || c == '+'), exponentDigits])]

/-- A text between marks, none of which may stand behind a backslash at its end; the letter of
octets may stand in front. -/
def quotedBy (mark : String) : Pattern :=
  chain [maybe (char 'b'), exactly mark, shortRun (· != '\n'), notBehind (· == '\\'), exactly mark]

/-- A tag in angle brackets, up to the last one that closes. -/
def tagPattern : Pattern :=
  chain [marked (char '<'), marked (longRun (isWordOr "-.:|")), marked (longRun fun _ => true),
    marked (char '>')]

/-- A name with an equals sign and its value. -/
def settingPattern : Pattern :=
  let quote := maybe (char '"')
  chain [marked (times 1 (some 50) (one Text.isWordChar)), char '=',
    maybe (marked (chain [quote, run Text.isWordChar, quote]))]

/-- The characters of an address of a page. -/
def isPageChar (c : Char) : Bool :=
  c.isAlphanum || "-$_+!\x60(),.?/;:&=%#~@".toList.contains c

/-- Values: addresses, calls, constants, numbers, paths, quoted texts. -/
def valuePattern : Pattern :=
  let sign := one fun c => c == '-' || c == '+'
  let constant (s : String) := chain [wordBorder true, marked (exactly s), wordBorder true]
  let isPathChar := isWordOr "-._+"
  firstOf [
    marked (both (times 3 (some 3) (both shortNumber (char '.'))) shortNumber),
    marked (both
      (times 1 (some 7) (chain [hexDigits 1 4, char ':', maybe (char ':')])) (hexDigits 1 4)),
    deviceAddress 7 3,
    deviceAddress 5 2,
    marked (chain [hexDigits 8 8, char '-', times 3 (some 3) (both (hexDigits 4 4) (char '-')),
      hexDigits 12 12]),
    both (marked (shortRun (isWordOr "."))) (char '('),
    constant "True", constant "False", constant "None",
    marked (exactly "..."),
    marked (chain [notBehind Text.isWordChar, maybe (char '-'), decimal (fewest isAnyDigit),
      maybe (both sign (decimal (run isAnyDigit))), char 'j']),
    marked (either
      (chain [notBehind Text.isWordChar, maybe (char '-'), decimal (fewest isAnyDigit),
        wordBorder true])
      (both (exactly "0x") (longRun isHexDigit))),
    both
      (marked (chain [wordBorder false, times 0 none (both (char '/') (run isPathChar)), char '/']))
      (marked (longRun isPathChar)),
    both (notBehind (isWordOr "\\"))
      (marked (firstOf (["\x27\x27\x27", "\x27", "\"\"\"", "\""].map quotedBy))),
    marked (chain [firstOf (["file", "https", "http", "ws", "wss"].map exactly), exactly "://",
      longRun isPageChar])]

/-- What is highlighted in a message. -/
def messagePatterns : List Pattern :=
  [tagPattern, settingPattern, marked (one fun c => "[]\x7b\x7d()".toList.contains c), valuePattern]

/-- The requests that are highlighted in a log besides. -/
def requestPattern : Pattern :=
  marked (firstOf
    (["GET", "POST", "HEAD", "PUT", "DELETE", "OPTIONS", "TRACE", "PATCH"].map exactly))

/-- The spans of what patterns mark in a text, if its cells depend on them. -/
def highlights (patterns : List Pattern) (s : List Char) : List Span :=
  if s.contains joiner || s.contains pictureSelector then
    patterns.flatMap (spansFrom (s.length + 1) · ⟨0, none, s, []⟩)
  else []

/-- The text with what the patterns mark in it. -/
def StyledText.highlight (patterns : List Pattern) (t : StyledText) : StyledText :=
  { t with spans := highlights patterns t.text ++ t.spans }

end Runbook.Console

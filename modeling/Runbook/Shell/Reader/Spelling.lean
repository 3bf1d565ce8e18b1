import Runbook.Shell.Quoting
import Runbook.Shell.Reader.Place

/-!
# How words are spelled

The extended language tells words the way that they are spelled in the script. Joined lines are one
there, and text with escapes behind a dollar sign stands between plain quotes.
-/

namespace Runbook.Shell

/-- The text between quotes in which a backslash protects any character, and the text behind. -/
def quotedAhead : List Char → List Char × List Char
  | [] => ([], [])
  | '\x27' :: rest => ([], rest)
  | '\\' :: c :: rest => ('\\' :: c :: (quotedAhead rest).1, (quotedAhead rest).2)
  | c :: rest => (c :: (quotedAhead rest).1, (quotedAhead rest).2)

/-- The spelling of a text of the script; the quote that it stands in is given. -/
def spellingOf (fuel : Nat) (quote : Option Char) (s : List Char) : List Char :=
  match fuel, quote, s with
  | 0, _, s => s
  | _, _, [] => []
  | fuel + 1, some '\x27', c :: rest =>
    c :: spellingOf fuel (if c == '\x27' then none else some '\x27') rest
  | fuel + 1, quote, '\\' :: '\n' :: rest => spellingOf fuel quote rest
  | fuel + 1, quote, '\\' :: c :: rest => '\\' :: c :: spellingOf fuel quote rest
  | fuel + 1, none, '$' :: '\x27' :: rest =>
    let (body, rest) := quotedAhead rest
    singleQuotedText (escapedOctets 0 body) ++ spellingOf fuel none rest
  | fuel + 1, none, '$' :: '\x22' :: rest => '\x22' :: spellingOf fuel (some '\x22') rest
  | fuel + 1, none, c :: rest =>
    c :: spellingOf fuel (if c == '\x27' || c == '\x22' then some c else none) rest
  | fuel + 1, quote, c :: rest => c :: spellingOf fuel (if some c = quote then none else quote) rest

/-- The spelling of what was read since a place; the common language does not ask for it. -/
def spellingSince (before : Source) : Reading String := do
  let after ← get
  match after.dialect with
  | .common => return ""
  | .extended =>
    let text := before.rest.take (before.rest.length - after.rest.length)
    return String.ofList (spellingOf text.length none text)

/-- Reads a word with the text that spells it. -/
def spelled (read : Reading Word) : Reading Wording := do
  let _ ← ahead
  let before ← get
  let word ← read
  return .mk (← spellingSince before) word

/-- A spelling without the marks at its end. -/
def Wording.dropEnd (count : Nat) : Wording → Wording
  | .mk text word => .mk (String.ofList (text.toList.take (text.length - count))) word

end Runbook.Shell

import Runbook.Number.Reading

/-!
# Texts in settings files

Readers of a settings file take characters and give what they read with the characters left. A
basic string knows escapes, a literal one does not, and either may run over lines between three
quotes, where one or two quotes may stand before the closing ones.
-/

namespace Runbook.Toml

/-- What a reader gives: a value and the characters behind it. -/
abbrev Read (α : Type) := Option (α × List Char)

/-- The blanks inside a line. -/
def isBlank (c : Char) : Bool := c == ' ' || c == '\t'

/-- The text without leading blanks. -/
def skipBlanks (s : List Char) : List Char := s.dropWhile isBlank

/-- The text without leading blanks and line feeds. -/
def skipGaps (s : List Char) : List Char := s.dropWhile fun c => isBlank c || c == '\n'

/-- The control characters that no string on one line and no comment may hold. -/
def isControl (c : Char) : Bool := (c.toNat < 0x20 && c != '\t') || c.toNat == 0x7F

/-- The control characters that no string may hold. -/
def isLongControl (c : Char) : Bool := isControl c && c != '\n'

/-- Splits off a comment, if there is one. -/
def skipComment? (s : List Char) : Option (List Char) :=
  match s with
  | '#' :: rest =>
    if (rest.takeWhile (· != '\n')).any isControl then none else some (rest.dropWhile (· != '\n'))
  | _ => some s

/-- The rest behind a text in front. -/
def after? (text : List Char) (s : List Char) : Option (List Char) :=
  if text.isPrefixOf s then some (s.drop text.length) else none

/-- The character for the letter behind a backslash. -/
def letterEscape? (c : Char) : Option Char :=
  if c == 'b' then some '\x08'
  else if c == 't' then some '\t'
  else if c == 'n' then some '\n'
  else if c == 'f' then some '\x0C'
  else if c == 'r' then some '\r'
  else if c == '\x22' || c == '\\' then some c
  else none

/-- The character whose code point is written in so many digits of base sixteen. -/
def codeEscape? (length : Nat) (s : List Char) : Read Char :=
  let digits := s.take length
  if digits.length = length then
    (readNat? 16 digits).bind fun code =>
      if code.isValidChar then some (Char.ofNat code, s.drop length) else none
  else none

/-- Reads an escape behind its backslash. -/
def escape? (s : List Char) : Read Char :=
  match s with
  | 'u' :: rest => codeEscape? 4 rest
  | 'U' :: rest => codeEscape? 8 rest
  | c :: rest => (letterEscape? c).map (·, rest)
  | [] => none

/-- What follows a backslash at the end of a line: the next character that is no gap. -/
def lineJoin? (s : List Char) : Option (List Char) :=
  match s with
  | '\n' :: rest => some (skipGaps rest)
  | c :: _ =>
    if isBlank c then
      match skipBlanks s with
      | '\n' :: rest => some (skipGaps rest)
      | [] => some []
      | _ => none
    else none
  | [] => none

/-- Whether a backslash is followed by a gap. -/
def startsGap (s : List Char) : Bool := s.head?.any fun c => isBlank c || c == '\n'

/-- The three double quotes around a long basic string. -/
def longQuote : List Char := ['\x22', '\x22', '\x22']

/-- The three apostrophes around a long literal string. -/
def longApostrophe : List Char := ['\x27', '\x27', '\x27']

/-- Reads a basic string behind its opening quotes. -/
def basic? (long : Bool) (fuel : Nat) (s : List Char) : Read (List Char) :=
  match fuel with
  | 0 => none
  | fuel + 1 =>
    match s with
    | [] => none
    | c :: rest =>
      if c == '\x22' then
        if !long then some ([], rest)
        else
          match after? longQuote s with
          | some rest => some ([], rest)
          | none => (basic? long fuel rest).map fun (more, rest) => (c :: more, rest)
      else if c == '\\' then
        if long && startsGap rest then (lineJoin? rest).bind (basic? long fuel)
        else
          (escape? rest).bind fun (plain, rest) =>
            (basic? long fuel rest).map fun (more, rest) => (plain :: more, rest)
      else if (if long then isLongControl c else isControl c) then none
      else (basic? long fuel rest).map fun (more, rest) => (c :: more, rest)

/-- Reads a literal string on one line behind its opening apostrophe. -/
def literal? (s : List Char) : Read (List Char) :=
  let body := s.takeWhile (· != '\x27')
  match s.dropWhile (· != '\x27') with
  | _ :: rest => if body.any isControl then none else some (body, rest)
  | [] => none

/-- Reads a long literal string behind its opening apostrophes. -/
def longLiteral? : List Char → Read (List Char)
  | [] => none
  | c :: rest =>
    match after? longApostrophe (c :: rest) with
    | some after => some ([], after)
    | none =>
      if isLongControl c then none
      else (longLiteral? rest).map fun (more, rest) => (c :: more, rest)

/-- Takes up to two more quotes in front of the rest into a long string. -/
def extraQuotes (quote : Char) : List Char × List Char → List Char × List Char
  | (text, rest) =>
    let extra := (rest.takeWhile (· == quote)).take 2
    (text ++ extra, rest.drop extra.length)

/-- The text of a long string behind its quotes; a line feed right there does not count. -/
def dropFirstBreak : List Char → List Char
  | '\n' :: rest => rest
  | s => s

/-- Reads a string of any form. -/
def string? (s : List Char) : Read (List Char) :=
  match after? longQuote s with
  | some rest =>
    (basic? true (rest.length + 1) (dropFirstBreak rest)).map (extraQuotes '\x22')
  | none =>
    match after? longApostrophe s with
    | some rest => (longLiteral? (dropFirstBreak rest)).map (extraQuotes '\x27')
    | none =>
      match s with
      | c :: rest =>
        if c == '\x22' then basic? false (rest.length + 1) rest
        else if c == '\x27' then literal? rest
        else none
      | [] => none

/-- The characters of keys without quotes. -/
def isKeyChar (c : Char) : Bool := c.isAlphanum || c == '-' || c == '_'

/-- Reads one part of a key. -/
def keyPart? (s : List Char) : Read String :=
  match s with
  | c :: rest =>
    if isKeyChar c then some (String.ofList (s.takeWhile isKeyChar), s.dropWhile isKeyChar)
    else if c == '\x22' then
      (basic? false (rest.length + 1) rest).map fun (text, rest) => (String.ofList text, rest)
    else if c == '\x27' then (literal? rest).map fun (text, rest) => (String.ofList text, rest)
    else none
  | [] => none

/-- Reads a key, whose parts stand between dots, and the blanks behind it. -/
def key? (fuel : Nat) (s : List Char) : Read (List String) :=
  match fuel with
  | 0 => none
  | fuel + 1 =>
    (keyPart? s).bind fun (part, rest) =>
      match skipBlanks rest with
      | '.' :: rest => (key? fuel (skipBlanks rest)).map fun (parts, rest) => (part :: parts, rest)
      | rest => some ([part], rest)

end Runbook.Toml

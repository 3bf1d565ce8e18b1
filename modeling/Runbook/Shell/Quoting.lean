import Runbook.Number.Written

/-!
# Texts that a shell reads back

A text that is told can be read back as it was: it stands in quotes, or behind backslashes where it
has characters that mean something in a script. Characters that cannot be seen have escapes.
-/

namespace Runbook.Shell

/-- Whether a character cannot be seen. -/
def isUnseen (c : Char) : Bool := c < ' ' || c == '\x7f'

/-- The characters that mean something wherever they stand in a script. -/
def markedCharacters : List Char := "\t\n \x27\x22\\|&;()<>!\x7b\x7d*[?]^$\x60".toList

/-- Whether a character means something behind another one; at the start there is none. -/
def isMarkedBehind (before : Option Char) (c : Char) : Bool :=
  markedCharacters.contains c || (c == '#' && before.isNone) ||
    (c == '~' && (before.isNone || before = some '=' || before = some ':'))

/-- Whether a text has a character that means something in a script. -/
def hasMark (before : Option Char) : List Char → Bool
  | [] => false
  | c :: rest => isMarkedBehind before c || hasMark (some c) rest

/-- A text between single quotes; those in it stand outside, behind backslashes. -/
def singleQuotedText (s : List Char) : List Char :=
  '\x27' :: (s.flatMap fun c => if c == '\x27' then "'\\''".toList else [c]) ++ ['\x27']

/-- A text between single quotes; one that is a quote stands behind a backslash. -/
def quotedPlainly (text : String) : String :=
  if text = "\x27" then "\\'" else String.ofList (singleQuotedText text.toList)

/-- A text between quotes behind a dollar sign. -/
def escapedQuote (text : String) : String :=
  "$\x27" ++ String.join (text.toList.map escapedChar) ++ "\x27"
where
  escapedChar (c : Char) : String :=
    match c with
    | '\n' => "\\n"
    | '\t' => "\\t"
    | '\r' => "\\r"
    | '\x07' => "\\a"
    | '\x08' => "\\b"
    | '\x0b' => "\\v"
    | '\x0c' => "\\f"
    | '\x1b' => "\\E"
    | '\\' | '\x27' => String.ofList ['\\', c]
    | c =>
      if isUnseen c then "\\" ++ String.ofList (padLeft 3 '0' (Nat.toDigits 8 c.toNat))
      else c.toString

/-- A text with backslashes, or in quotes if characters cannot be seen. -/
def shellQuoted (text : String) : String :=
  if text = "" then "\x27\x27"
  else if text.toList.any isUnseen then escapedQuote text
  else String.ofList (protect none text.toList)
where
  protect (before : Option Char) : List Char → List Char
    | [] => []
    | c :: rest =>
      (if c == ',' || isMarkedBehind before c then ['\\', c] else [c]) ++ protect (some c) rest

/-- A text between quotes. -/
def reusable (text : String) : String :=
  if text.toList.any isUnseen then escapedQuote text else quotedPlainly text

/-- A text in double quotes. -/
def doubleQuoted (text : String) : String :=
  if text.toList.any isUnseen then escapedQuote text
  else
    "\x22" ++ String.join (text.toList.map fun c =>
      if "\x22\\$\x60".toList.contains c then String.ofList ['\\', c] else c.toString) ++ "\x22"

/-- A text in quotes, if it has to be. -/
def quotedIfMarked (text : String) : String :=
  if text.toList.any isUnseen then escapedQuote text
  else if hasMark none text.toList then quotedPlainly text else text

/-- A name as programs tell it: it stands in quotes if it has characters that mean something in a
script, or always. Double quotes are for names that have single ones and nothing that would mean
something between them. -/
def namedText (always : Bool) (text : String) : String :=
  let s := text.toList
  let isOdd (c : Char) : Bool := isUnseen c || " !\x22$&()*;<=>[^\x60|\x27\\?".toList.contains c
  let isOddFirst (c : Char) : Bool := c == '#' || c == '~'
  let needsQuotes :=
    s.isEmpty || s.any isOdd || s.head?.any isOddFirst || s = ['\x7b'] || s = ['\x7d']
  let fits (c : Char) : Bool :=
    c == ' ' || c == '\x27' || !(isOdd c || "#~\x7b\x7d".toList.contains c)
  let fitsAll := (s.head?.any fun c => fits c || isOddFirst c) && (s.drop 1).all fits
  if !needsQuotes then if always then "'" ++ text ++ "'" else text
  else if s.contains '\x27' && fitsAll then "\x22" ++ text ++ "\x22"
  else "'" ++ String.join (pieces false s) ++ "'"
where
  pieces (isOpen : Bool) : List Char → List String
    | [] => []
    | c :: rest =>
      if isUnseen c then
        (if isOpen then "" else "'$'") ::
          (if c == '\x1b' then "\\033" else escapedQuote.escapedChar c) :: pieces true rest
      else if c == '\x27' then "'\\''" :: pieces false rest
      else (if isOpen then "''" else "") :: c.toString :: pieces false rest

/-- A text in single quotes as the common language tells it: quotes in it stand in double quotes. -/
def singleQuoted (text : String) : String :=
  let rec go (fuel : Nat) (s : List Char) : List Char :=
    match fuel with
    | 0 => []
    | fuel + 1 =>
      let plain := s.takeWhile (· != '\x27')
      let quotes := (s.drop plain.length).takeWhile (· == '\x27')
      let rest := s.drop (plain.length + quotes.length)
      '\x27' :: plain ++ ['\x27'] ++
        (if quotes.isEmpty then []
        else '\x22' :: quotes ++ ['\x22'] ++ if rest.isEmpty then [] else go fuel rest)
  String.ofList (go (text.length + 1) text.toList)

end Runbook.Shell

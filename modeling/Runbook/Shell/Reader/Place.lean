import Runbook.Shell.Source

/-!
# Places in the text of a script

What a character means depends on where it stands: in a bare word, between double quotes, in a here
text, in the argument of a parameter or in a sum.
-/

namespace Runbook.Shell

/-- Where a run of segments ends: a bare word before the characters that end words, quoted text
behind its closing quote, an argument before one of some marks, a sum behind two closing
parentheses, a pattern before a blank outside of parentheses, and other text at its end. -/
inductive Stop where
  | blank
  | quote
  | before (marks : List Char)
  | sum (depth : Nat)
  | pattern (depth : Nat)
  | textEnd
  deriving DecidableEq, Repr

/-- A place in the text of a script: where it ends, whether text is quoted there, whether it is in a
here text, whether substitutions are plain text, and the line on which it starts. -/
structure Place where
  stop : Stop
  quoted : Bool
  here : Bool
  raw : Bool
  start : Nat
  deriving DecidableEq, Repr

namespace Place

/-- A bare word. -/
def bare (start : Nat) : Place := ⟨.blank, false, false, false, start⟩

/-- The text between double quotes that stand at a place. -/
def doubled (place : Place) (start : Nat) : Place :=
  { place with stop := .quote, quoted := true, start }

/-- The text of a here text. -/
def hereText (start : Nat) : Place := ⟨.textEnd, true, true, false, start⟩

/-- An argument at a place, before one of some marks. -/
def argument (place : Place) (marks : List Char) (quoted : Bool) (start : Nat) : Place :=
  { place with stop := .before marks, quoted, start }

/-- A sum at a place. -/
def sum (place : Place) (start : Nat) : Place :=
  { place with stop := .sum 0, quoted := true, start }

/-- Whether the place is in an argument of a parameter. -/
def inArgument (place : Place) : Bool :=
  match place.stop with
  | .before _ => true
  | _ => false

/-- Whether the place is in a sum. -/
def inSum (place : Place) : Bool :=
  match place.stop with
  | .sum _ => true
  | _ => false

/-- Whether a backslash before a character stays. -/
def keepsBackslash (place : Place) (c : Char) : Bool :=
  place.quoted && !"\\\x60$".toList.contains c &&
    (c != '\x22' || (place.here && !place.inArgument)) && (c != '\x7d' || !place.inArgument)

/-- Whether a character ends the segments, if it is not quoted. -/
def endsAt (place : Place) (c : Char) : Bool :=
  match place.stop with
  | .blank => endsWord c
  | .quote => c == '\x22'
  | .before marks => marks.contains c
  | .pattern 0 => " \t\n;&<>)".toList.contains c
  | _ => false

/-- Whether a character stands for itself whatever is around it. -/
def isPlain (place : Place) (c : Char) : Bool :=
  !"\\$\x60\x22\x27()".toList.contains c && !place.endsAt c

end Place

/-- The text of a command in back quotes and the text behind it. A backslash protects the marks,
and between double quotes also a double quote. -/
def backQuoted? (quoted : Bool) : List Char → Option (List Char × List Char)
  | [] => none
  | '\x60' :: rest => some ([], rest)
  | '\\' :: '\n' :: rest => backQuoted? quoted rest
  | '\\' :: c :: rest =>
    (backQuoted? quoted rest).map fun (body, after) =>
      let isDropped := c == '\x60' || c == '\\' || c == '$' || (quoted && c == '\x22')
      (if isDropped then c :: body else '\\' :: c :: body, after)
  | c :: rest => (backQuoted? quoted rest).map fun (body, after) => (c :: body, after)

/-- The single characters that name a parameter. -/
def isSpecialParam (c : Char) : Bool := "@*#?-$!".toList.contains c || c.isDigit

/-- Reads the name of a parameter in braces and whether its length is asked for; nothing if there is
no name. -/
def readParamName (fuel : Nat) : Reading (Option (String × Bool)) := do
  let named (isLength : Bool) : Reading (Option (String × Bool)) := do
    match ← ahead with
    | c :: _ =>
      if c.isDigit then return some (String.ofList (← takeChars fuel Char.isDigit), isLength)
      else return some (String.ofList (← takeChars fuel isNameChar), isLength)
    | [] => return none
  match ← ahead with
  | '#' :: _ =>
    skip 1
    match ← ahead with
    | c :: _ =>
      if isNameChar c then named true
      else
        let before ← get
        skip 1
        if c != '\x7d' && (← ahead).head? = some '\x7d' then
          if isSpecialParam c then return some (String.ofList [c], true) else return none
        else
          set before
          return some ("#", false)
    | [] => return some ("#", false)
  | c :: _ =>
    if isNameChar c then named false
    else if isSpecialParam c then
      skip 1
      return some (String.ofList [c], false)
    else return none
  | [] => return none

/-- Reads the use of a parameter that every dialect knows; nothing if none is named. -/
def readCommonUse : Reading (Option ParamUse) := do
  let before ← get
  let emptyToo ← accept ':'
  if ← accept '-' then return some (.orElse emptyToo)
  else if ← accept '=' then return some (.assign emptyToo)
  else if ← accept '?' then return some (.orFail emptyToo)
  else if ← accept '+' then return some (.instead emptyToo)
  else if emptyToo then
    set before
    return none
  else if ← accept '#' then return some (.dropFront (← accept '#'))
  else if ← accept '%' then return some (.dropBack (← accept '%'))
  else return none

/-- Reads the change of case of a parameter; nothing if none is named. -/
def readRecasing : Reading (Option Recasing) := do
  if ← accept '^' then return some (if ← accept '^' then .allUp else .firstUp)
  else if ← accept ',' then return some (if ← accept ',' then .allDown else .firstDown)
  else if ← accept '~' then return some (if ← accept '~' then .allSwap else .firstSwap)
  else return none

/-- The octets of the text with its backslash escapes replaced, from the `skip`-th character on. -/
def escapedOctets (skip : Nat) : List Char → List Char
  | [] => []
  | '\\' :: c :: rest =>
    match skip with
    | skip + 1 => escapedOctets skip (c :: rest)
    | 0 =>
      let one (d : Char) : List Char := d :: escapedOctets 1 (c :: rest)
      match c with
      | 'a' => one '\x07'
      | 'b' => one '\x08'
      | 'e' | 'E' => one '\x1b'
      | 'f' => one '\x0c'
      | 'n' => one '\n'
      | 'r' => one '\r'
      | 't' => one '\t'
      | 'v' => one '\x0b'
      | '\\' | '\x27' | '\x22' | '?' => one c
      | 'x' =>
        let (n, count) := numberAhead 16 2 rest
        if count = 0 then '\\' :: one 'x'
        else Char.ofNat n :: escapedOctets (count + 1) (c :: rest)
      | 'u' | 'U' =>
        let (n, count) := numberAhead 16 (if c == 'u' then 4 else 8) rest
        if count = 0 then '\\' :: one c
        else
          (Text.encode (String.ofList [Char.ofNat n])).toList ++
            escapedOctets (count + 1) (c :: rest)
      | 'c' =>
        match rest with
        | d :: _ => Char.ofNat (d.toUpper.toNat % 32) :: escapedOctets 2 (c :: rest)
        | [] => '\\' :: one 'c'
      | _ =>
        let (n, count) := numberAhead 8 3 (c :: rest)
        if count = 0 then '\\' :: one c
        else Char.ofNat (n % 256) :: escapedOctets count (c :: rest)
  | c :: rest =>
    match skip with
    | skip + 1 => escapedOctets skip rest
    | 0 => c :: escapedOctets 0 rest

end Runbook.Shell

import Runbook.Toml.Namespace
import Runbook.Toml.Text

/-!
# Values in settings files

Strings, booleans, dates and times, numbers, arrays, and tables on one line. An integer with too
many digits and a value that is nested too deep are well formed but cannot be used, and are told
apart.
-/

namespace Runbook.Toml

/-- Why a settings file has no value. -/
inductive Fault where
  | malformed
  | longNumber
  | tooDeep
  deriving DecidableEq, Repr

/-- What a reader of values gives. -/
abbrev Parsed (α : Type) := Except Fault (α × List Char)

/-- What was read, or that the text is malformed. -/
def wellFormed {α : Type} : Option α → Except Fault α
  | some a => .ok a
  | none => .error .malformed

/-- Reads so many digits that form a number within bounds. -/
def fixedNumber? (length least most : Nat) (s : List Char) : Read Nat :=
  let digits := s.take length
  if digits.length = length && digits.all Char.isDigit then
    (readNat? 10 digits).bind fun n =>
      if least ≤ n ∧ n ≤ most then some (n, s.drop length) else none
  else none

/-- Reads a time of day; of the digits of the second's fraction six count. -/
def time? (s : List Char) : Option (TimeOfDay × List Char) := do
  let (hour, s) ← fixedNumber? 2 0 23 s
  let s ← after? [':'] s
  let (minute, s) ← fixedNumber? 2 0 59 s
  let s ← after? [':'] s
  let (second, s) ← fixedNumber? 2 0 59 s
  let fraction :=
    match s with
    | '.' :: rest => rest.takeWhile Char.isDigit
    | _ => []
  let micro := (readNat? 10 ((fraction ++ List.replicate 6 '0').take 6)).getD 0
  let s := if fraction.isEmpty then s else s.drop (fraction.length + 1)
  some (⟨hour, minute, second, micro⟩, s)

/-- Reads the distance from universal time, if there is one. -/
def offset (s : List Char) : Option Int × List Char :=
  match s with
  | 'Z' :: rest | 'z' :: rest => (some 0, rest)
  | sign :: rest =>
    if sign == '+' || sign == '-' then
      let distance : Option (Nat × List Char) := do
        let (hours, rest) ← fixedNumber? 2 0 23 rest
        let rest ← after? [':'] rest
        let (minutes, rest) ← fixedNumber? 2 0 59 rest
        some (hours * 60 + minutes, rest)
      match distance with
      | some (minutes, rest) => (some (if sign == '-' then -(minutes : Int) else minutes), rest)
      | none => (none, s)
    else (none, s)
  | [] => (none, s)

/-- Reads the numbers of a date. -/
def dateNumbers? (s : List Char) : Option ((Nat × Nat × Nat) × List Char) := do
  let (year, s) ← fixedNumber? 4 0 9999 s
  let s ← after? ['-'] s
  let (month, s) ← fixedNumber? 2 1 12 s
  let s ← after? ['-'] s
  let (day, s) ← fixedNumber? 2 1 31 s
  some ((year, month, day), s)

/-- Reads what follows a date: a time behind the letter T or a space, with its distance. -/
def moment (date : Date) (s : List Char) : Scalar × List Char :=
  match s with
  | c :: rest =>
    if c == 'T' || c == 't' || c == ' ' then
      match time? rest with
      | some (time, rest) =>
        let (offset, rest) := offset rest
        (.moment ⟨date, time, offset⟩, rest)
      | none => (.date date, s)
    else (.date date, s)
  | [] => (.date date, s)

/-- Whether a character is a digit of the base. -/
def isDigitOf (base : Nat) (c : Char) : Bool := (digitValue? base c).isSome

/-- Reads a run of digits in which single underscores divide digits. -/
def digits (base : Nat) : List Char → List Char × List Char
  | [] => ([], [])
  | '_' :: c :: rest =>
    if isDigitOf base c then
      let (run, rest) := digits base rest
      (c :: run, rest)
    else ([], '_' :: c :: rest)
  | c :: rest =>
    if isDigitOf base c then
      let (run, rest) := digits base rest
      (c :: run, rest)
    else ([], c :: rest)

/-- Reads a run of digits that starts with a digit. -/
def digits? (base : Nat) (s : List Char) : Read (List Char) :=
  if s.head?.any (isDigitOf base) then some (digits base s) else none

/-- Reads an integer behind the mark of its base. -/
def basedInt? (s : List Char) : Read Int :=
  let read (base : Nat) (rest : List Char) : Read Int :=
    (digits? base rest).bind fun (run, rest) =>
      (readNat? base run).map fun n => ((n : Int), rest)
  match s with
  | '0' :: 'x' :: rest => read 16 rest
  | '0' :: 'o' :: rest => read 8 rest
  | '0' :: 'b' :: rest => read 2 rest
  | _ => none

/-- Reads the whole part of a decimal number, where a zero stands alone. -/
def wholePart? (s : List Char) : Read (List Char) :=
  match s with
  | '0' :: rest => some (['0'], rest)
  | _ => digits? 10 s

/-- Reads the fraction of a number with its point; nothing if there is none. -/
def fractionPart (s : List Char) : List Char × List Char :=
  match s with
  | '.' :: rest =>
    match digits? 10 rest with
    | some (run, rest) => ('.' :: run, rest)
    | none => ([], s)
  | _ => ([], s)

/-- Reads the exponent of a number with its letter; nothing if there is none. -/
def exponentPart (s : List Char) : List Char × List Char :=
  match s with
  | c :: rest =>
    if c == 'e' || c == 'E' then
      let (sign, rest) :=
        match rest with
        | '+' :: rest => (['+'], rest)
        | '-' :: rest => (['-'], rest)
        | rest => ([], rest)
      match digits? 10 rest with
      | some (run, rest) => ('e' :: sign ++ run, rest)
      | none => ([], s)
    else ([], s)
  | [] => ([], s)

/-- Reads a decimal number. -/
def decimal? (s : List Char) : Parsed Scalar :=
  let (sign, body) :=
    match s with
    | '+' :: rest => (['+'], rest)
    | '-' :: rest => (['-'], rest)
    | rest => ([], rest)
  (wellFormed (wholePart? body)).bind fun (whole, rest) =>
    let (fraction, rest) := fractionPart rest
    let (exponent, rest) := exponentPart rest
    if fraction.isEmpty && exponent.isEmpty then
      if maxDigits < whole.length then .error .longNumber
      else (wellFormed (readInteger? 10 (sign ++ whole))).map fun i => (.int i, rest)
    else
      (wellFormed (readDecimal? (sign ++ whole ++ fraction ++ exponent))).map fun x =>
        (.float x, rest)

/-- Reads an infinity or no number by its name. -/
def namedNumber? (s : List Char) : Read Scalar :=
  let (negative, body) := splitSign s
  match after? "inf".toList body, after? "nan".toList body with
  | some rest, _ => some (.float (.infinite negative), rest)
  | _, some rest => some (.float .nan, rest)
  | _, _ => none

/-- Reads a date, a time, or a number. -/
def scalar? (s : List Char) : Parsed Scalar :=
  match dateNumbers? s with
  | some ((year, month, day), rest) =>
    wellFormed ((Date.ofNumbers? year month day).map fun date => moment date rest)
  | none =>
    match time? s, basedInt? s, decimal? s with
    | some (time, rest), _, _ => .ok (.time time, rest)
    | _, some (i, rest), _ => .ok (.int i, rest)
    | _, _, .error .malformed => wellFormed (namedNumber? s)
    | _, _, found => found

/-- The text without gaps and comments in front. -/
def skipArrayGaps? (fuel : Nat) (s : List Char) : Option (List Char) :=
  match fuel with
  | 0 => some s
  | fuel + 1 =>
    match skipGaps s with
    | '#' :: rest => (skipComment? ('#' :: rest)).bind (skipArrayGaps? fuel)
    | rest => some rest

/-- The room for values inside of each other: an array takes two parts of it, a table on one line
three. -/
def nestingRoom : Nat := 989

/-- Goes into a value that takes some room, if so much is left. -/
def within {α : Type} (room cost : Nat) (read : Nat → Except Fault α) : Except Fault α :=
  if room < cost then .error .tooDeep else read (room - cost)

mutual

/-- Reads a value. -/
def value? (fuel room : Nat) (s : List Char) : Parsed Value :=
  match fuel with
  | 0 => .error .malformed
  | fuel + 1 =>
    match s with
    | [] => .error .malformed
    | c :: rest =>
      if c == '\x22' || c == '\x27' then
        (wellFormed (string? s)).map fun (text, rest) =>
          (.scalar (.str (String.ofList text)), rest)
      else if c == '[' then
        (wellFormed (skipArrayGaps? (rest.length + 1) rest)).bind fun rest =>
          within room 2 fun room =>
            (items? fuel room rest).map fun (items, rest) => (.list items, rest)
      else if c == '\x7b' then
        match skipBlanks rest with
        | '\x7d' :: rest => .ok (.map [], rest)
        | rest =>
          within room 3 fun room =>
            (pairs? fuel room [] [] rest).map fun (table, rest) => (.map table, rest)
      else
        match after? "true".toList s, after? "false".toList s with
        | some rest, _ => .ok (.scalar (.bool true), rest)
        | _, some rest => .ok (.scalar (.bool false), rest)
        | _, _ => (scalar? s).map fun (found, rest) => (.scalar found, rest)

/-- Reads the items of an array up to its closing bracket. -/
def items? (fuel room : Nat) (s : List Char) : Parsed (List Value) :=
  match fuel with
  | 0 => .error .malformed
  | fuel + 1 =>
    match s with
    | ']' :: rest => .ok ([], rest)
    | _ =>
      (value? fuel room s).bind fun (item, rest) =>
        (wellFormed (skipArrayGaps? (rest.length + 1) rest)).bind fun rest =>
          match rest with
          | ']' :: rest => .ok ([item], rest)
          | ',' :: rest =>
            (wellFormed (skipArrayGaps? (rest.length + 1) rest)).bind fun rest =>
              (items? fuel room rest).map fun (items, rest) => (item :: items, rest)
          | _ => .error .malformed

/-- Reads the pairs of a table on one line up to its closing brace, into a table. -/
def pairs? (fuel room : Nat) (registry : Registry) (table : Table) (s : List Char) : Parsed Table :=
  match fuel with
  | 0 => .error .malformed
  | fuel + 1 =>
    (pair? fuel room s).bind fun ((key, value), rest) =>
      if registry.isFrozen key then .error .malformed
      else
        let name := key.getLastD ""
        (wellFormed (table.update false (Table.add name value) key.dropLast)).bind fun table =>
          match skipBlanks rest with
          | '\x7d' :: rest => .ok (table, rest)
          | ',' :: rest =>
            let registry :=
              match value with
              | .scalar _ => registry
              | _ => (key, .frozen) :: registry
            pairs? fuel room registry table (skipBlanks rest)
          | _ => .error .malformed

/-- Reads a key, an equals sign and a value. -/
def pair? (fuel room : Nat) (s : List Char) : Parsed (List String × Value) :=
  match fuel with
  | 0 => .error .malformed
  | fuel + 1 =>
    (wellFormed (key? (s.length + 1) s)).bind fun (key, rest) =>
      match rest with
      | '=' :: rest =>
        (value? fuel room (skipBlanks rest)).map fun (value, rest) => ((key, value), rest)
      | _ => .error .malformed

end

end Runbook.Toml

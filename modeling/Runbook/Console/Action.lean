import Runbook.Text.Blank
import Runbook.Text.Word

/-!
# Actions in markup

A tag that starts with an at sign names an action. Behind its equals sign stands the name of a
handler with its arguments in parentheses, or arguments alone. The arguments are constants: numbers,
texts, octets, truth values, tuples, sets and tables. A tag holds no brackets, so there are no
lists.
-/

namespace Runbook.Console

/-- What a constant is, as far as it decides where it may stand: a number with or without a part
that is imaginary and with or without a sign, a text, octets, another value that can be a key, or a
value that cannot. -/
inductive Constant where
  | number (isReal hasSign : Bool)
  | text
  | octets
  | fixed
  | changing
  deriving DecidableEq, Repr

namespace Constant

/-- Whether a constant can be a key. -/
def isKey (constant : Constant) : Bool := constant != changing

/-- What a tuple of constants is. -/
def tuple (constants : List Constant) : Constant := if constants.all isKey then fixed else changing

/-- A number with a sign; nothing else has one. -/
def signed? : Constant → Option Constant
  | number isReal false => some (number isReal true)
  | _ => none

/-- The sum of a real number and an imaginary one without a sign of its own. -/
def sum? : Constant → Constant → Option Constant
  | number true _, number false false => some fixed
  | _, _ => none

end Constant

/-- The text without blanks and a remark in front; inside parentheses lines end there too. A
backslash joins two lines. -/
def skipBlanks (fuel : Nat) (isInside : Bool) (s : List Char) : List Char :=
  match fuel, s with
  | fuel + 1, '\\' :: '\n' :: rest => skipBlanks fuel isInside rest
  | fuel + 1, c :: rest =>
    if c == ' ' || c == '\t' || c == '\x0c' || (isInside && (c == '\n' || c == '\r')) then
      skipBlanks fuel isInside rest
    else if c == '#' then skipBlanks fuel isInside (rest.dropWhile (· != '\n'))
    else s
  | _, _ => s

/-- The text behind digits, a low line between two of them at most. -/
def skipDigits (isDigit : Char → Bool) : List Char → List Char
  | '_' :: c :: rest => if isDigit c then skipDigits isDigit rest else '_' :: c :: rest
  | c :: rest => if isDigit c then skipDigits isDigit rest else c :: rest
  | [] => []

/-- The text behind digits of which the first stands here. -/
def digitsAt? (isDigit : Char → Bool) (s : List Char) : Option (List Char) :=
  if s.head?.any isDigit then some (skipDigits isDigit s) else none

/-- The text behind an exponent, if one stands here. -/
def skipExponent (s : List Char) : List Char :=
  match s with
  | c :: rest =>
    if c == 'e' || c == 'E' then
      let digits := if rest.head?.any fun c => c == '+' || c == '-' then rest.drop 1 else rest
      (digitsAt? Char.isDigit digits).getD s
    else s
  | [] => s

/-- The most digits that a whole number has. -/
def maxDigits : Nat := 4300

/-- The text behind digits of another base, in front of which a low line may stand. -/
def basedAt? (isDigit : Char → Bool) (s : List Char) : Option (List Char) :=
  digitsAt? isDigit (if s.head? = some '_' then s.drop 1 else s)

/-- Whether a character is a digit of base sixteen. -/
def isHex (c : Char) : Bool := c.isDigit || ('a' ≤ c.toLower && c.toLower ≤ 'f')

/-- The number of base ten at the start of a text, and the text behind it. A whole number has no
zeros in front. -/
def decimalAt? (s : List Char) : Option (Constant × List Char) :=
  let whole := skipDigits Char.isDigit s
  let digits := (s.take (s.length - whole.length)).filter Char.isDigit
  let rest :=
    skipExponent <|
      match whole with
      | '.' :: rest => (digitsAt? Char.isDigit rest).getD rest
      | _ => whole
  if rest.head?.any fun c => c == 'j' || c == 'J' then some (.number false false, rest.drop 1)
  else if rest.length < whole.length then some (.number true false, rest)
  else if maxDigits < digits.length || (digits.head? = some '0' && digits.any (· != '0')) then none
  else some (.number true false, rest)

/-- The number at the start of a text that starts with a digit or a point, and the text behind it;
no word goes on there. -/
def numberAt? (s : List Char) : Option (Constant × List Char) :=
  let based? (isDigit : Char → Bool) (rest : List Char) : Option (Constant × List Char) :=
    (basedAt? isDigit rest).map (.number true false, ·)
  let found? :=
    match s with
    | '0' :: 'x' :: rest | '0' :: 'X' :: rest => based? isHex rest
    | '0' :: 'o' :: rest | '0' :: 'O' :: rest => based? (fun c => '0' ≤ c && c ≤ '7') rest
    | '0' :: 'b' :: rest | '0' :: 'B' :: rest => based? (fun c => c == '0' || c == '1') rest
    | _ => decimalAt? s
  found?.filter fun (_, rest) => !rest.head?.any Text.isWordChar

/-- The text behind an escape whose backslash has been read; octets know no code points. -/
def escapeAt? (isOctets : Bool) (s : List Char) : Option (List Char) :=
  let coded (count : Nat) (rest : List Char) : Option (List Char) :=
    if (rest.take count).length = count && (rest.take count).all isHex then some (rest.drop count)
    else none
  match s with
  | 'x' :: rest => coded 2 rest
  | 'u' :: rest => if isOctets then some rest else coded 4 rest
  | 'U' :: rest =>
    if isOctets then some rest
    else if "0010".toList.isPrefixOf rest || "000".toList.isPrefixOf rest then coded 8 rest
    else none
  | 'N' :: rest =>
    if isOctets then some rest
    else
      match rest with
      | '\x7b' :: name =>
        match name.dropWhile (· != '\x7d') with
        | _ :: after => if name.head? = some '\x7d' then none else some after
        | [] => none
      | _ => none
  | _ :: rest => some rest
  | [] => none

/-- The text behind the closing quotes of a text, or of octets, with or without escapes. -/
def closeQuote? (fuel : Nat) (quotes : List Char) (isOctets isRaw : Bool) (s : List Char) :
    Option (List Char) :=
  match fuel with
  | 0 => none
  | fuel + 1 =>
    if quotes.isPrefixOf s then some (s.drop quotes.length)
    else
      match s with
      | [] => none
      | '\\' :: rest =>
        let after? := if isRaw then rest.tail? else escapeAt? isOctets rest
        if isOctets && rest.head?.any ('\x7f' < ·) then none
        else after?.bind (closeQuote? fuel quotes isOctets isRaw)
      | c :: rest =>
        if isOctets && '\x7f' < c then none
        else if quotes.length = 1 && (c == '\n' || c == '\r') then none
        else closeQuote? fuel quotes isOctets isRaw rest

/-- The quoted text or the octets at the start of a text, and the text behind. -/
def quotedAt? (s : List Char) : Option (Constant × List Char) :=
  let letters := s.takeWhile Char.isAlpha
  let kind := String.ofList (letters.map Char.toLower)
  let isOctets := kind = "b" || kind = "br" || kind = "rb"
  let isRaw := kind = "r" || kind = "br" || kind = "rb"
  if kind = "" || kind = "u" || isOctets || isRaw then
    match s.drop letters.length with
    | c :: rest =>
      if c == '"' || c == '\x27' then
        let quotes := if [c, c].isPrefixOf rest then [c, c, c] else [c]
        let rest := if quotes.length = 3 then rest.drop 2 else rest
        (closeQuote? (rest.length + 1) quotes isOctets isRaw rest).map fun rest =>
          (if isOctets then .octets else .text, rest)
      else none
    | [] => none
  else none

/-- Quoted texts side by side are one; texts and octets do not mix. -/
def joinedAt? (fuel : Nat) (isInside : Bool) (s : List Char) : Option (Constant × List Char) :=
  match fuel with
  | 0 => none
  | fuel + 1 =>
    (quotedAt? s).bind fun (first, rest) =>
      let next := skipBlanks rest.length isInside rest
      match quotedAt? next with
      | none => some (first, rest)
      | some _ =>
        (joinedAt? fuel isInside next).bind fun (second, rest) =>
          if first = second then some (first, rest) else none

/-- The name at the start of a text, and the text behind. -/
def takeName (s : List Char) : String × List Char :=
  (String.ofList (s.takeWhile Text.isWordChar), s.dropWhile Text.isWordChar)

mutual

/-- A number with or without a sign, a text or another constant that is no sum. -/
def termAt? (fuel : Nat) (isInside : Bool) (s : List Char) : Option (Constant × List Char) :=
  match fuel with
  | 0 => none
  | fuel + 1 =>
    match s with
    | '(' :: rest =>
      (itemsAt? fuel true rest).map fun (constants, isTuple, rest) =>
        match constants, isTuple with
        | [constant], false => (constant, rest)
        | _, _ => (.tuple constants, rest)
    | '\x7b' :: rest => tableAt? fuel none rest
    | '.' :: '.' :: '.' :: rest => some (.fixed, rest)
    | c :: rest =>
      if c.isDigit || (c == '.' && rest.head?.any Char.isDigit) then numberAt? s
      else
        match joinedAt? (s.length + 1) isInside s with
        | some found => some found
        | none =>
          match takeName s with
          | ("True", rest) | ("False", rest) | ("None", rest) => some (.fixed, rest)
          | ("set", rest) =>
            match skipBlanks rest.length isInside rest with
            | '(' :: inner =>
              match skipBlanks inner.length true inner with
              | ')' :: rest => some (.changing, rest)
              | _ => none
            | _ => none
          | _ => none
    | [] => none
termination_by structural fuel

/-- A constant: a term, a number with a sign, or a sum. -/
def constantAt? (fuel : Nat) (isInside : Bool) (s : List Char) : Option (Constant × List Char) :=
  match fuel with
  | 0 => none
  | fuel + 1 =>
    let isSign (c : Char) : Bool := c == '+' || c == '-'
    let s := skipBlanks s.length isInside s
    let first? :=
      if s.head?.any isSign then
        let rest := s.drop 1
        (termAt? fuel isInside (skipBlanks rest.length isInside rest)).bind fun (constant, rest) =>
          constant.signed?.map (·, rest)
      else termAt? fuel isInside s
    first?.bind fun (first, rest) =>
      let next := skipBlanks rest.length isInside rest
      if next.head?.any isSign then
        let rest := next.drop 1
        (termAt? fuel isInside (skipBlanks rest.length isInside rest)).bind fun (second, rest) =>
          (first.sum? second).map (·, rest)
      else some (first, next)
termination_by structural fuel

/-- Constants with commas between them up to a closing parenthesis or the end of the text, and
whether there is a comma or nothing. -/
def itemsAt? (fuel : Nat) (isInside : Bool) (s : List Char) :
    Option (List Constant × Bool × List Char) :=
  match fuel with
  | 0 => none
  | fuel + 1 =>
    let isEnd (s : List Char) : Bool :=
      if isInside then s.head? = some ')' else (skipBlanks s.length true s).isEmpty
    let s := skipBlanks s.length isInside s
    if isEnd s then some ([], true, s.drop 1)
    else
      (constantAt? fuel isInside s).bind fun (constant, rest) =>
        let rest := skipBlanks rest.length isInside rest
        if isEnd rest then some ([constant], false, rest.drop 1)
        else if rest.head? = some ',' then
          (itemsAt? fuel isInside (rest.drop 1)).map fun (constants, _, rest) =>
            (constant :: constants, true, rest)
        else none
termination_by structural fuel

/-- The members of a set, or of a table if they have values, up to the closing brace; what comes
first decides. -/
def tableAt? (fuel : Nat) (hasValues : Option Bool) (s : List Char) :
    Option (Constant × List Char) :=
  match fuel with
  | 0 => none
  | fuel + 1 =>
    let s := skipBlanks s.length true s
    if s.head? = some '\x7d' then some (.changing, s.drop 1)
    else
      (constantAt? fuel true s).bind fun (key, rest) =>
        let rest := skipBlanks rest.length true rest
        let isPair := rest.head? = some ':'
        let value? := if isPair then constantAt? fuel true (rest.drop 1) else some (key, rest)
        if key.isKey && hasValues.all (· == isPair) then
          value?.bind fun (_, rest) =>
            match skipBlanks rest.length true rest with
            | ',' :: rest => tableAt? fuel (some isPair) rest
            | '\x7d' :: rest => some (.changing, rest)
            | _ => none
        else none
termination_by structural fuel

end

/-- Whether a text is constants, at least one; lines of remarks may stand in front. -/
def areConstants (s : List Char) : Bool :=
  match itemsAt? (3 * s.length + 5) false (skipBlanks s.length true s) with
  | some ([], _) | none => false
  | some _ => true

/-- Whether what stands behind the equals sign of an action can be read: a handler, with its
arguments in parentheses or without, or constants. -/
def isAction (s : List Char) : Bool :=
  let s := Text.trim s
  let isNameChar (c : Char) : Bool := Text.isWordChar c || c == '.'
  let arguments := s.dropWhile isNameChar
  if arguments.isEmpty then true
  else if arguments.head? = some '(' && arguments.getLast? = some ')' &&
    !arguments.contains '\n' then
    areConstants arguments
  else areConstants s

end Runbook.Console

import Runbook.Data.Value
import Runbook.Number.Reading
import Runbook.Text.Line

/-!
# Kinds of markup nodes and values of scalars

A plain scalar without a tag takes its kind from its text. A tagged scalar is read as the kind of
its tag, whatever its text looks like.
-/

namespace Runbook.Yaml

/-- The kinds of nodes. A node of an unknown kind has no value. -/
inductive Kind where
  | null
  | bool
  | int
  | float
  | binary
  | timestamp
  | str
  | seq
  | map
  | set
  | omap
  | pairs
  | merge
  | defaultValue
  | unknown
  deriving DecidableEq, Repr, Inhabited

namespace Kind

/-- What the tags of the known kinds start with. -/
def schema : List Char := "tag:yaml.org,2002:".toList

/-- The kind that a name of the schema stands for. -/
def ofName (name : String) : Kind :=
  match name with
  | "null" => null
  | "bool" => bool
  | "int" => int
  | "float" => float
  | "binary" => binary
  | "timestamp" => timestamp
  | "str" => str
  | "seq" => seq
  | "map" => map
  | "set" => set
  | "omap" => omap
  | "pairs" => pairs
  | _ => unknown

/-- The kind that a tag stands for. -/
def ofTag (tag : List Char) : Kind :=
  match String.ofList (tag.drop schema.length) with
  | "merge" => if schema.isPrefixOf tag then merge else unknown
  | "value" => if schema.isPrefixOf tag then defaultValue else unknown
  | name => if schema.isPrefixOf tag then ofName name else unknown

end Kind

/-- Whether a character is a digit or an underscore. -/
def isDigitOrBar (c : Char) : Bool := c.isDigit || c == '_'

/-- The rest behind a run that starts with a digit and goes on with digits and underscores. -/
def digitRun? (s : List Char) : Option (List Char) :=
  match s with
  | c :: rest => if c.isDigit then some (rest.dropWhile isDigitOrBar) else none
  | [] => none

/-- The rest behind groups of a colon and a number below sixty, of which there is at least one. -/
def sixtieths? (fuel : Nat) (s : List Char) : Option (List Char) :=
  match fuel with
  | 0 => none
  | fuel + 1 =>
    match s with
    | ':' :: rest =>
      let digits := rest.takeWhile Char.isDigit
      let after := rest.dropWhile Char.isDigit
      let fits :=
        match digits with
        | [_] => true
        | [tens, _] => tens ≤ '5'
        | _ => false
      if !fits then none
      else if after.head? = some ':' then sixtieths? fuel after
      else some after
    | _ => none

/-- Whether the text is empty or an exponent with its sign. -/
def isExponent (s : List Char) : Bool :=
  match s with
  | [] => true
  | e :: sign :: digits =>
    (e == 'e' || e == 'E') && (sign == '+' || sign == '-') && !digits.isEmpty
      && digits.all Char.isDigit
  | _ => false

/-- Whether the text is a number with a point. -/
def looksFloat (s : List Char) : Bool :=
  let body := (splitSign s).2
  let decimal :=
    match digitRun? body with
    | some ('.' :: rest) => isExponent (rest.dropWhile isDigitOrBar)
    | some rest =>
      match sixtieths? rest.length rest with
      | some ('.' :: rest) => rest.all isDigitOrBar
      | _ => false
    | none => false
  let fraction :=
    match s with
    | '.' :: rest =>
      match digitRun? rest with
      | some rest => isExponent rest
      | none => false
    | _ => false
  let infinity := [".inf", ".Inf", ".INF"].any fun name => body = name.toList
  let notANumber := [".nan", ".NaN", ".NAN"].any fun name => s = name.toList
  decimal || fraction || infinity || notANumber

/-- Whether the text is an integer in base two, eight, ten, sixteen or sixty. -/
def looksInt (s : List Char) : Bool :=
  match (splitSign s).2 with
  | '0' :: 'b' :: rest =>
    !rest.isEmpty && rest.all fun c => c == '0' || c == '1' || c == '_'
  | '0' :: 'x' :: rest =>
    !rest.isEmpty && rest.all fun c => isDigitOrBar c || (digitValue? 16 c).isSome
  | ['0'] => true
  | '0' :: rest => rest.all fun c => (digitValue? 8 c).isSome || c == '_'
  | c :: rest =>
    if c.isDigit then
      match rest.dropWhile isDigitOrBar with
      | [] => true
      | tail => sixtieths? tail.length tail = some []
    else false
  | [] => false

/-- The texts of the parts of a date or a moment. -/
structure MomentText where
  year : List Char
  month : List Char
  day : List Char
  time : Option (List Char × List Char × List Char)
  fraction : List Char
  offset : Option (Char × List Char × List Char)
  deriving Repr

/-- Splits off a run of digits whose length is within bounds. -/
def digits? (least most : Nat) (s : List Char) : Option (List Char × List Char) :=
  let run := (s.takeWhile Char.isDigit).take most
  if least ≤ run.length then some (run, s.drop run.length) else none

/-- Splits off a character. -/
def mark? (c : Char) (s : List Char) : Option (List Char) :=
  match s with
  | d :: rest => if d == c then some rest else none
  | [] => none

/-- Reads the distance from universal time at the end of a moment. -/
def offsetText? (s : List Char) : Option (Option (Char × List Char × List Char)) :=
  match s.dropWhile fun c => c == ' ' || c == '\t' with
  | [] => if s.isEmpty then some none else none
  | ['Z'] => some (some ('Z', [], []))
  | sign :: rest =>
    if sign == '+' || sign == '-' then
      match digits? 1 2 rest with
      | some (hours, []) => some (some (sign, hours, []))
      | some (hours, ':' :: rest) =>
        match digits? 2 2 rest with
        | some (minutes, []) => some (some (sign, hours, minutes))
        | _ => none
      | _ => none
    else none

/-- Reads a date, or a date and a time divided by the letter T or blanks. -/
def momentText? (s : List Char) : Option MomentText := do
  let (year, s) ← digits? 4 4 s
  let s ← mark? '-' s
  let (month, s) ← digits? 1 2 s
  let s ← mark? '-' s
  let (day, s) ← digits? 1 2 s
  if s.isEmpty then some ⟨year, month, day, none, [], none⟩
  else
    let s ←
      match s with
      | 'T' :: rest | 't' :: rest => some rest
      | c :: _ =>
        if c == ' ' || c == '\t' then some (s.dropWhile fun c => c == ' ' || c == '\t') else none
      | [] => none
    let (hour, s) ← digits? 1 2 s
    let s ← mark? ':' s
    let (minute, s) ← digits? 2 2 s
    let s ← mark? ':' s
    let (second, s) ← digits? 2 2 s
    let (fraction, s) :=
      match s with
      | '.' :: rest => (rest.takeWhile Char.isDigit, rest.dropWhile Char.isDigit)
      | s => ([], s)
    let offset ← offsetText? s
    some ⟨year, month, day, some (hour, minute, second), fraction, offset⟩

/-- Whether an untagged text is a date or a moment; a date alone has two digits for month and
day. -/
def looksTimestamp (s : List Char) : Bool :=
  match momentText? s with
  | some parts => parts.time.isSome || s.length = 10
  | none => false

/-- The text without a line feed at its end. -/
def dropFinalBreak (s : List Char) : List Char :=
  if s.getLast? = some '\n' then s.dropLast else s

/-- The words for the two booleans. -/
def boolWords : List (String × Bool) :=
  [("yes", true), ("no", false), ("true", true), ("false", false), ("on", true), ("off", false)]

/-- The ways to write a word without a tag: small, with a capital, and in capitals. -/
def spellings (word : String) : List String := [word, word.capitalize, word.toUpper]

/-- The kind of a plain scalar without a tag. A line feed at the end does not count. -/
def implicitKind (s : List Char) : Kind :=
  let text := dropFinalBreak s
  let isOneOf (words : List String) : Bool := words.any fun word => text = word.toList
  if s.isEmpty then .null
  else if isOneOf (boolWords.flatMap fun entry => spellings entry.1) then .bool
  else if looksFloat text then .float
  else if looksInt text then .int
  else if isOneOf ["<<"] then .merge
  else if isOneOf ["~", "null", "Null", "NULL"] then .null
  else if looksTimestamp text then .timestamp
  else if isOneOf ["="] then .defaultValue
  else if isOneOf ["!", "&", "*"] then .unknown
  else .str

/-- The text without underscores. -/
def dropBars (s : List Char) : List Char := s.filter (· != '_')

/-- The value of an integer scalar. -/
def intValue? (s : List Char) : Option Int :=
  let (negative, text) := splitSign (dropBars s)
  let magnitude : Option Int :=
    match text with
    | [] => none
    | ['0'] => some 0
    | '0' :: 'b' :: rest => readInteger? 2 rest
    | '0' :: 'x' :: rest => readInteger? 16 rest
    | '0' :: _ => readInteger? 8 text
    | _ =>
      if text.contains ':' then
        ((Text.splitOn ':' text).mapM (readInteger? 10)).map fun parts =>
          parts.foldl (fun total part => total * 60 + part) 0
      else readInteger? 10 text
  magnitude.map fun n => if negative then -n else n

/-- The sum of parts, the last one a unit and each other one sixty times the next. A unit beyond
all numbers has no sum. -/
def sixtySum? (parts : List Binary64) : Option Binary64 :=
  (parts.reverse.foldlM
    (fun (total : Binary64 × Nat) part =>
      let unit := Binary64.ofInt total.2
      if unit.isFinite then some (total.1.add (part.mul unit), total.2 * 60) else none)
    (Binary64.zero false, 1)).map Prod.fst

/-- The value of a scalar of the number kind. -/
def floatValue? (s : List Char) : Option Binary64 :=
  let (negative, text) := splitSign ((dropBars s).map Char.toLower)
  let magnitude : Option Binary64 :=
    if text.isEmpty then none
    else if text = ".inf".toList then some (.infinite false)
    else if text = ".nan".toList then some .nan
    else if text.contains ':' then ((Text.splitOn ':' text).mapM readReal?).bind sixtySum?
    else readReal? text
  magnitude.map fun x => if negative then x.neg else x

/-- Whether a number is written as no number without a name of its own. -/
def isPlainNaN (s : List Char) : Bool :=
  (splitSign ((dropBars s).map Char.toLower)).2 = ".nan".toList

/-- The number written by a run of digits; zero for none. -/
def numberOf (s : List Char) : Nat := (readNat? 10 s).getD 0

/-- The date or moment that a scalar holds. -/
def momentValue? (s : List Char) : Option Scalar := do
  let parts ← momentText? (dropFinalBreak s)
  let date ← Date.ofNumbers? (numberOf parts.year) (numberOf parts.month) (numberOf parts.day)
  match parts.time with
  | none => some (.date date)
  | some (hour, minute, second) =>
    let micro := numberOf ((parts.fraction ++ List.replicate 6 '0').take 6)
    let time ← TimeOfDay.ofNumbers? (numberOf hour) (numberOf minute) (numberOf second) micro
    match parts.offset with
    | none => some (.moment ⟨date, time, none⟩)
    | some (sign, hours, minutes) =>
      let distance : Int := numberOf hours * 60 + numberOf minutes
      if distance < 1440 then
        some (.moment ⟨date, time, some (if sign == '-' then -distance else distance)⟩)
      else none

/-- The value of a digit of base sixty-four. -/
def sextet? (c : Char) : Option Nat :=
  if 'A' ≤ c ∧ c ≤ 'Z' then some (c.toNat - 65)
  else if 'a' ≤ c ∧ c ≤ 'z' then some (c.toNat - 71)
  else if '0' ≤ c ∧ c ≤ '9' then some (c.toNat + 4)
  else if c == '+' then some 62
  else if c == '/' then some 63
  else none

/-- Decodes digits of base sixty-four in groups of four; `filled` digits of the present group were
read, with `carry` the bits of the last one that are still to be used, and `pads` equals signs stand
behind them. Other characters are skipped, and a full group with its padding ends the text. -/
def decodeSextets (filled carry pads : Nat) : List Char → Option (List UInt8)
  | [] => if filled = 0 then some [] else none
  | c :: rest =>
    if c == '=' then
      if 2 ≤ filled then
        (if 4 ≤ filled + pads + 1 then some [] else decodeSextets filled carry (pads + 1) rest)
      else decodeSextets filled carry pads rest
    else
      match sextet? c with
      | none => decodeSextets filled carry pads rest
      | some n =>
        match filled with
        | 0 => decodeSextets 1 n 0 rest
        | 1 =>
          (decodeSextets 2 (n % 16) 0 rest).map ((carry * 4 + n / 16).toUInt8 :: ·)
        | 2 => (decodeSextets 3 (n % 4) 0 rest).map ((carry * 16 + n / 4).toUInt8 :: ·)
        | _ => (decodeSextets 0 0 0 rest).map ((carry * 64 + n).toUInt8 :: ·)

/-- The bytes that a scalar holds in base sixty-four. -/
def bytesValue? (s : List Char) : Option (List UInt8) :=
  if s.all fun c => c.toNat < 128 then decodeSextets 0 0 0 s else none

/-- The value of a scalar of the given kind. -/
def scalarValue? (kind : Kind) (s : List Char) : Option Scalar :=
  match kind with
  | .null => some .null
  | .bool =>
    let word := String.ofList (s.map Char.toLower)
    ((boolWords.find? fun entry => entry.1 = word).map Prod.snd).map .bool
  | .int => (intValue? s).map .int
  | .float => (floatValue? s).map .float
  | .binary => (bytesValue? s).map .bytes
  | .timestamp => momentValue? s
  | .str => some (.str (String.ofList s))
  | _ => none

end Runbook.Yaml

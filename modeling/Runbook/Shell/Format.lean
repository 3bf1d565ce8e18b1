import Runbook.Number.Shortest
import Runbook.Shell.Arithmetic
import Runbook.Shell.DateForm
import Runbook.Shell.Quoting

/-!
# Forms and escapes

Backslashes in front of some letters and digits stand for characters that are hard to write. A
form is a text with places for values; it is used again while there are values left. Numbers are
written from their exact value, a tie to the even digit.
-/

namespace Runbook.Shell

/-- The octet that a letter behind a backslash stands for. -/
def escaped? (c : Char) : Option Char :=
  match c with
  | 'a' => some '\x07'
  | 'b' => some '\x08'
  | 'e' => some '\x1b'
  | 'f' => some '\x0c'
  | 'n' => some '\n'
  | 'r' => some '\r'
  | 't' => some '\t'
  | 'v' => some '\x0b'
  | '\\' => some '\\'
  | _ => none

/-- The octets that an escape in a form stands for behind its backslash, and the text behind it. -/
def formEscape (dialect : Dialect) (s : List Char) : List Char × List Char :=
  match s with
  | [] => (['\\'], [])
  | c :: rest =>
    let (n, count) := numberAhead 8 3 s
    if 0 < count then ([Char.ofNat (n % 256)], s.drop count)
    else
      match dialect, c, escaped? c with
      | _, _, some d => ([d], rest)
      | .common, _, none => (['\\'], s)
      | .extended, 'x', none =>
        let (n, count) := numberAhead 16 2 rest
        if count = 0 then (['\\'], s) else ([Char.ofNat n], rest.drop count)
      | .extended, _, none =>
        if c == '\x22' || c == '\x27' || c == '?' then ([c], rest)
        else if c == 'u' || c == 'U' then
          let (n, count) := numberAhead 16 (if c == 'u' then 4 else 8) rest
          if count = 0 then (['\\'], s)
          else ((Text.encode (String.ofList [Char.ofNat n])).toList, rest.drop count)
        else (['\\'], s)

/-- The text with its escapes replaced, and whether an escape ended it. In such a text the digits of
a number stand behind a zero that does not count. -/
def unescape (fuel : Nat) (dialect : Dialect) (s : List Char) : List Char × Bool :=
  match fuel with
  | 0 => (s, false)
  | fuel + 1 =>
    let before := s.takeWhile (· != '\\')
    match s.drop before.length with
    | '\\' :: 'c' :: _ => (before, true)
    | '\\' :: '0' :: rest =>
      let (n, count) := numberAhead 8 3 rest
      let (more, stopped) := unescape fuel dialect (rest.drop count)
      (before ++ Char.ofNat (n % 256) :: more, stopped)
    | '\\' :: rest =>
      let (text, rest) := formEscape dialect rest
      let (more, stopped) := unescape fuel dialect rest
      (before ++ text ++ more, stopped)
    | _ => (before, false)

/-- The text with its escapes replaced, and whether an escape ended it. -/
def unescaped (dialect : Dialect) (s : List Char) : List Char × Bool :=
  unescape (s.length + 1) dialect s

/-- A place in a form: its flags, width, precision and letter. -/
structure FormPlace where
  toLeft : Bool
  zeros : Bool
  plus : Bool
  blank : Bool
  marked : Bool
  width : Nat
  precision : Option Nat
  letter : Char
  deriving DecidableEq, Repr

namespace FormPlace

/-- A text with spaces up to the width. -/
def pad (place : FormPlace) (s : List Char) : List Char :=
  if place.toLeft then s ++ List.replicate (place.width - s.length) ' '
  else padLeft place.width ' ' s

/-- The text of a number: its sign or mark and its digits, with zeros between them if asked for. -/
def number (place : FormPlace) (front digits : List Char) (zeros : Bool) : List Char :=
  if zeros && !place.toLeft then front ++ padLeft (place.width - front.length) '0' digits
  else place.pad (front ++ digits)

/-- The sign of a number. -/
def sign (place : FormPlace) (negative : Bool) : List Char :=
  if negative then ['-'] else if place.plus then ['+'] else if place.blank then [' '] else []

/-- The digits of a number, at least as many as the precision says. -/
def digits (place : FormPlace) (base n : Nat) : List Char :=
  if n = 0 && place.precision = some 0 then []
  else padLeft (place.precision.getD 1) '0' (Nat.toDigits base n)

/-- The text of an integer. -/
def integer (place : FormPlace) (n : Int) : List Char :=
  place.number (place.sign (n < 0)) (place.digits 10 n.natAbs)
    (place.zeros && place.precision.isNone)

/-- The text of a number without sign, of 64 bits. -/
def unsigned (place : FormPlace) (n : Nat) : List Char :=
  let zeros := place.zeros && place.precision.isNone
  match place.letter with
  | 'o' =>
    let digits := place.digits 8 n
    let digits := if place.marked && digits.head? != some '0' then '0' :: digits else digits
    place.number [] digits zeros
  | 'x' =>
    place.number (if place.marked && n != 0 then ['0', 'x'] else []) (place.digits 16 n) zeros
  | 'X' =>
    place.number (if place.marked && n != 0 then ['0', 'X'] else [])
      ((place.digits 16 n).map Char.toUpper) zeros
  | _ => place.number [] (place.digits 10 n) zeros

end FormPlace

/-- The digits of a fraction with so many behind the point. -/
def fixedDigits (fraction : Nat × Nat) (places : Nat) : List Char :=
  let n := Binary64.divideEven (fraction.1 * tenTo places) fraction.2
  let all := padLeft (places + 1) '0' (decimalDigits n)
  let whole := all.take (all.length - places)
  if places = 0 then whole else whole ++ '.' :: all.drop (all.length - places)

/-- A fraction as one digit and so many behind the point, and a power of ten. -/
def scientific (fraction : Nat × Nat) (places : Nat) : List Char × Int :=
  if fraction.1 = 0 then (fixedDigits (0, 1) places, 0)
  else
    let e := Binary64.leadingExponent fraction
    let scaled (e : Int) : Nat × Nat :=
      let unit := Binary64.decimalFraction 1 e
      (fraction.1 * unit.2, fraction.2 * unit.1)
    let digits := fixedDigits (scaled e) places
    if digits.take 2 = ['1', '0'] then (fixedDigits (scaled (e + 1)) places, e + 1)
    else (digits, e)

/-- The text of a power of ten. -/
def exponentText (e : Int) : List Char :=
  'e' :: (if e < 0 then '-' else '+') :: padLeft 2 '0' (decimalDigits e.natAbs)

/-- The digits of a text without zeros at its end, and without a point there. -/
def withoutZeros (s : List Char) : List Char :=
  if s.contains '.' then
    let kept := s.reverse.dropWhile (· == '0')
    (if kept.head? = some '.' then kept.drop 1 else kept).reverse
  else s

/-- The digits of a fraction in the way that a letter asks for. -/
def fractionText (place : FormPlace) (fraction : Nat × Nat) : List Char :=
  let places := place.precision.getD 6
  let marked (s : List Char) : List Char :=
    if place.marked && !s.contains '.' then s ++ ['.'] else s
  match place.letter.toLower with
  | 'e' =>
    let (digits, e) := scientific fraction places
    marked digits ++ exponentText e
  | 'g' =>
    let count := max 1 places
    let (digits, e) := scientific fraction (count - 1)
    let short (s : List Char) : List Char := if place.marked then s else withoutZeros s
    if e < -4 || (count : Int) ≤ e then short digits ++ exponentText e
    else short (fixedDigits fraction ((count - 1 : Int) - e).toNat)
  | _ => marked (fixedDigits fraction places)

/-- A value read for a place: its sign and the fraction that it is, or one that is none. -/
inductive FormNumber where
  | fraction (negative : Bool) (fraction : Nat × Nat)
  | other (negative : Bool) (text : String)

/-- The text of a value with a fraction. -/
def FormPlace.real (place : FormPlace) (value : FormNumber) : List Char :=
  let cased (s : List Char) : List Char := if place.letter.isUpper then s.map Char.toUpper else s
  match value with
  | .fraction negative fraction =>
    place.number (place.sign negative) (cased (fractionText place fraction)) place.zeros
  | .other negative text => place.pad (place.sign negative ++ cased text.toList)

/-- The positive fraction rounded to so many bits, a tie to the even one. -/
def roundedTo (bits : Nat) (fraction : Nat × Nat) : Nat × Nat :=
  if fraction.1 = 0 then (0, 1)
  else
    let low : Int := (fraction.1.log2 : Int) - fraction.2.log2 - bits
    let first := Binary64.inUnits fraction.1 fraction.2 low
    let e : Int := if twoTo bits ≤ first.1 / first.2 then low + 1 else low
    let scaled := Binary64.inUnits fraction.1 fraction.2 e
    Binary64.binaryFraction (Binary64.divideEven scaled.1 scaled.2) e

/-- The number of bits of the fractions of a dialect. -/
def Dialect.fractionBits : Dialect → Nat
  | .common => 53
  | .extended => 64

/-- The number that a text starts with, and the text behind it; nothing if there is none. -/
def realAhead? (dialect : Dialect) (s : List Char) : Option (FormNumber × List Char) :=
  let s := s.dropWhile fun c => c == ' ' || ('\t' ≤ c && c ≤ '\r')
  let (negative, s) := splitSign s
  let lower := s.map Char.toLower
  if "infinity".toList.isPrefixOf lower then some (.other negative "inf", s.drop 8)
  else if "inf".toList.isPrefixOf lower then some (.other negative "inf", s.drop 3)
  else if "nan".toList.isPrefixOf lower then some (.other negative "nan", s.drop 3)
  else
    let isHex := lower.take 2 = ['0', 'x'] &&
      (s.drop 2).head?.any fun c => (readNat? 16 [c]).isSome || c == '.'
    let base := if isHex then 16 else 10
    let s := if isHex then s.drop 2 else s
    let isDigit (c : Char) : Bool := (readNat? base [c]).isSome
    let whole := s.takeWhile isDigit
    let rest := s.drop whole.length
    let behind := if rest.head? = some '.' then (rest.drop 1).takeWhile isDigit else []
    if whole.isEmpty && behind.isEmpty then none
    else
      let rest := if rest.head? = some '.' then rest.drop (behind.length + 1) else rest
      let isMark := rest.head?.any fun c => c.toLower == (if isHex then 'p' else 'e')
      let (down, digits) := splitSign (rest.drop 1)
      let power := digits.takeWhile Char.isDigit
      let (e, rest) : Int × List Char :=
        if isMark && !power.isEmpty then
          let n : Int := (readNat? 10 power).getD 0
          (if down then -n else n, digits.drop power.length)
        else (0, rest)
      let n := (readNat? base (whole ++ behind)).getD 0
      let e := max (-20000) (min 20000 e)
      let unit := if isHex then Binary64.binaryFraction 1 e else Binary64.decimalFraction 1 e
      let fraction := (n * unit.1, Nat.pow base behind.length * unit.2)
      some (.fraction negative (roundedTo dialect.fractionBits fraction), rest)

/-- What a value is worth as an integer, with the complaint about it. -/
def integerValue (dialect : Dialect) (signed : Bool) (value : String) : Int × Option String :=
  match value.toList with
  | '\x27' :: rest | '\x22' :: rest => ((rest.head?.elim 0 Char.toNat : Nat), none)
  | s =>
    let bare := s.dropWhile fun c => c == ' ' || ('\t' ≤ c && c ≤ '\r')
    let (negative, digits) := splitSign bare
    if !digits.head?.any Char.isDigit then
      (0, if s.isEmpty then none else some (complaint dialect "expected numeric value"))
    else
      let (n, rest) := numberIn digits
      let n : Int := if negative then -(n : Int) else n
      let limited : Int :=
        if signed then clamped n else if (twoTo 64 : Int) ≤ n.natAbs then (twoTo 64 : Int) - 1 else n
      if !rest.isEmpty then (limited, some (complaint dialect "not completely converted"))
      else if limited != n then (limited, some "Numerical result out of range")
      else (limited, none)
where
  complaint (dialect : Dialect) (text : String) : String :=
    match dialect with
    | .common => text
    | .extended => "invalid number"

/-- What a value is worth as a number with a fraction, with the complaint about it. -/
def realValue (dialect : Dialect) (value : String) : FormNumber × Option String :=
  match value.toList with
  | '\x27' :: rest | '\x22' :: rest =>
    (.fraction false ((rest.head?.elim 0 Char.toNat : Nat), 1), none)
  | s =>
    match realAhead? dialect s with
    | none =>
      (.fraction false (0, 1),
        if s.isEmpty then none
        else some (if dialect = .common then "expected numeric value" else "invalid number"))
    | some (n, rest) =>
      (n,
        if rest.isEmpty then none
        else some (if dialect = .common then "not completely converted" else "invalid number"))

/-- What writing a form comes to: the text, what there is to complain of, whether an escape or a
fault ended it, and the values that are left. -/
structure Formed where
  text : List Char
  complaints : List String
  ended : Bool
  failed : Bool
  values : List String

namespace Formed

/-- More text behind what is there. -/
def add (formed : Formed) (text : List Char) : Formed :=
  { formed with text := formed.text ++ text }

/-- One more complaint. -/
def complain (formed : Formed) (complaint : Option String) : Formed :=
  { formed with complaints := formed.complaints ++ complaint.toList }

end Formed

/-- A width or precision ahead: digits, or a star for the next value. -/
def measureAhead (values : List String) (s : List Char) :
    Option Int × List String × List Char :=
  match s with
  | '*' :: rest =>
    (some (integerValue .common true (values.headD "")).1, values.drop 1, rest)
  | _ =>
    let digits := s.takeWhile Char.isDigit
    ((readNat? 10 digits).map Int.ofNat, values, s.drop digits.length)

/-- Writes one value at a place. -/
def formValue (dialect : Dialect) (place : FormPlace) (formed : Formed) : Formed :=
  let value := formed.values.headD ""
  let about (complaint : Option String) : Option String :=
    complaint.map fun text =>
      if text.startsWith "Numerical" && dialect = .extended then
        "warning: " ++ value ++ ": " ++ text
      else value ++ ": " ++ text
  let formed := { formed with values := formed.values.drop 1 }
  let cut (s : List Char) : List Char := place.precision.elim s s.take
  match place.letter with
  | 's' => formed.add (place.pad (cut value.toList))
  | 'q' => formed.add (place.pad (shellQuoted value).toList)
  | 'b' =>
    let (text, ended) := unescaped dialect value.toList
    { formed.add (place.pad (cut text)) with ended }
  | 'c' => formed.add (place.pad [value.toList.headD '\x00'])
  | 'd' | 'i' =>
    let (n, complaint) := integerValue dialect true value
    (formed.complain (about complaint)).add (place.integer n)
  | 'o' | 'u' | 'x' | 'X' =>
    let (n, complaint) := integerValue dialect false value
    (formed.complain (about complaint)).add (place.unsigned (bitsOf n))
  | _ =>
    let (n, complaint) := realValue dialect value
    (formed.complain (about complaint)).add (place.real n)

/-- The letters of places in a dialect. -/
def formLetters (dialect : Dialect) : List Char :=
  match dialect with
  | .common => "bcsdiouxXeEfFgG".toList
  | .extended => "bcsqdiouxXeEfFgG".toList

/-- The form of a moment that stands in parentheses, and the text behind it. -/
def momentAhead? (dialect : Dialect) : List Char → Option (List Char × List Char)
  | '(' :: rest =>
    let form := rest.takeWhile (· != ')')
    match dialect, rest.drop form.length with
    | .extended, ')' :: 'T' :: behind => some (if form.isEmpty then "%X".toList else form, behind)
    | _, _ => none
  | _ => none

/-- Writes a moment at a place; without a number it is the present one. -/
def formMoment (place : FormPlace) (form : List Char) (formed : Formed) : Formed :=
  let n := ((formed.values.head?).map fun value => (integerValue .extended true value).1).getD (-1)
  let seconds := if n < 0 then clockStart else n.toNat
  let formed := { formed with values := formed.values.drop 1 }
  formed.add (place.pad (momentText (form.length + 8) seconds form).toList)

/-- Passes through a form once. -/
def formOnce (fuel : Nat) (dialect : Dialect) (form : List Char) (formed : Formed) : Formed :=
  match fuel with
  | 0 => formed
  | fuel + 1 =>
    if formed.ended || formed.failed then formed
    else
      match form with
      | [] => formed
      | '\\' :: rest =>
        let (text, rest) := formEscape dialect rest
        formOnce fuel dialect rest (formed.add text)
      | '%' :: '%' :: rest => formOnce fuel dialect rest (formed.add ['%'])
      | '%' :: rest =>
        let known := if dialect = .extended then "-0+ #'" else "-0+ #"
        let flags := rest.takeWhile known.toList.contains
        let (width, values, behind) := measureAhead formed.values (rest.drop flags.length)
        let hasPoint := behind.head? = some '.'
        let (precision, values, behind) :=
          if hasPoint then measureAhead values (behind.drop 1) else (none, values, behind)
        let behind :=
          if dialect = .extended then behind.dropWhile "hljztL".toList.contains else behind
        let width := width.getD 0
        let precision : Option Nat :=
          if hasPoint then
            let n := precision.getD 0
            if n < 0 then none else some n.toNat
          else none
        let directive (s : List Char) : String :=
          String.ofList ('%' :: rest.take (rest.length - s.length))
        let place (letter : Char) : FormPlace :=
          ⟨flags.contains '-' || width < 0, flags.contains '0', flags.contains '+',
            flags.contains ' ', flags.contains '#', width.natAbs, precision, letter⟩
        match behind, momentAhead? dialect behind with
        | _, some (form, after) =>
          formOnce fuel dialect after (formMoment (place 's') form { formed with values })
        | [], none =>
          let complaint :=
            match dialect with
            | .common => "missing format character"
            | .extended => "\x60" ++ directive [] ++ "': missing format character"
          { formed.complain complaint with failed := true }
        | letter :: after, none =>
          if (formLetters dialect).contains letter then
            formOnce fuel dialect after (formValue dialect (place letter) { formed with values })
          else
            let complaint :=
              match dialect with
              | .common => directive after ++ ": invalid directive"
              | .extended => "\x60" ++ letter.toString ++ "': invalid format character"
            { formed.complain complaint with failed := true }
      | c :: rest =>
        let run := (c :: rest).takeWhile fun c => c != '%' && c != '\\'
        formOnce fuel dialect ((c :: rest).drop run.length) (formed.add run)

/-- Passes through a form until no values are left; a form without places is passed once. -/
def formWhile (fuel : Nat) (dialect : Dialect) (form : List Char) (formed : Formed) : Formed :=
  match fuel with
  | 0 => formed
  | fuel + 1 =>
    let after := formOnce (form.length + 1) dialect form formed
    if after.ended || after.failed || after.values.isEmpty ||
        after.values.length = formed.values.length then after
    else formWhile fuel dialect form after

/-- What writing a form with values comes to. -/
def formAll (dialect : Dialect) (form : String) (values : List String) : Formed :=
  formWhile (values.length + 1) dialect form.toList ⟨[], [], false, false, values⟩

end Runbook.Shell

import Runbook.Number.Shortest

/-!
# Written numbers

Numbers are written with the fewest digits that read back: positionally when the leading digit
stands between `10 ^ (-4)` and `10 ^ 15`, and otherwise with an exponent of at least two digits
and its sign. A positional number always has a fractional part. Reading is by `readDecimal`.
-/

namespace Runbook

/-- The decimal digits of a natural number. -/
def decimalDigits (n : Nat) : List Char := Nat.toDigits 10 n

/-- An integer in decimal, a minus sign before a negative one. -/
def decimalText (i : Int) : String :=
  match i with
  | .ofNat n => String.ofList (decimalDigits n)
  | .negSucc n => String.ofList ('-' :: decimalDigits (n + 1))

/-- Digits in front padded with zeros to the given length. -/
def padLeft (width : Nat) (filler : Char) (s : List Char) : List Char :=
  List.replicate (width - s.length) filler ++ s

/-- A natural number in decimal with leading zeros up to the given length. -/
def zeroPadded (width n : Nat) : String := String.ofList (padLeft width '0' (decimalDigits n))

namespace Binary64

/-- The layout of a positive decimal with the given digits, whose first digit stands for
`10 ^ (point - 1)`. -/
def layout (digits : List Char) (point : Int) : List Char :=
  if -4 < point ∧ point ≤ 16 then
    if point ≤ 0 then
      '0' :: '.' :: (List.replicate (-point).toNat '0' ++ digits)
    else
      let whole := digits.take point.toNat
      let part := digits.drop point.toNat
      whole ++ List.replicate (point.toNat - digits.length) '0' ++ '.' ::
        (if part.isEmpty then ['0'] else part)
  else
    let exponent := point - 1
    let power := padLeft 2 '0' (decimalDigits exponent.natAbs)
    let mantissa :=
      match digits with
      | [] => []
      | [d] => [d]
      | d :: ds => d :: '.' :: ds
    mantissa ++ 'e' :: (if exponent < 0 then '-' else '+') :: power

/-- A number written out; the names serve for what is not finite. -/
def render (infinity notANumber : String) : Binary64 → String
  | .nan => notANumber
  | .infinite negative => (if negative then "-" else "") ++ infinity
  | .finite negative m e =>
    let body :=
      if m = 0 then ['0', '.', '0']
      else
        let d := shortest m e
        let digits := decimalDigits d.digits
        layout digits (digits.length + d.exponent)
    String.ofList (if negative then '-' :: body else body)

/-- The text of a number in messages and plain data. -/
def text (x : Binary64) : String := render "inf" "nan" x

end Binary64

/-- The value of a digit in a base of at most 36. -/
def digitValue? (base : Nat) (c : Char) : Option Nat :=
  let v :=
    if '0' ≤ c ∧ c ≤ '9' then some (c.toNat - 48)
    else if 'a' ≤ c ∧ c ≤ 'z' then some (c.toNat - 87)
    else if 'A' ≤ c ∧ c ≤ 'Z' then some (c.toNat - 55)
    else none
  v.bind fun d => if d < base then some d else none

/-- The natural number that a nonempty run of digits in the base stands for. -/
def readNat? (base : Nat) (s : List Char) : Option Nat :=
  if s.isEmpty then none
  else s.foldl (fun acc c => acc.bind fun n => (digitValue? base c).map (n * base + ·)) (some 0)

/-- Splits off an optional sign; true means minus. -/
def splitSign : List Char → Bool × List Char
  | '-' :: rest => (true, rest)
  | '+' :: rest => (false, rest)
  | s => (false, s)

/-- The value of `sign digits . digits e sign digits`, where the point, the exponent and one of
the two runs of digits may be absent. -/
def readDecimal? (s : List Char) : Option Binary64 :=
  let (negative, body) := splitSign s
  let whole := body.takeWhile Char.isDigit
  let afterWhole := body.dropWhile Char.isDigit
  let (part, afterPart) :=
    match afterWhole with
    | '.' :: rest => (rest.takeWhile Char.isDigit, rest.dropWhile Char.isDigit)
    | rest => ([], rest)
  let power : Option Int :=
    match afterPart with
    | [] => some 0
    | 'e' :: rest | 'E' :: rest =>
      let (negativePower, digits) := splitSign rest
      (readNat? 10 digits).map fun n => if negativePower then -(n : Int) else n
    | _ => none
  match readNat? 10 (whole ++ part), power with
  | some digits, some p => some (Binary64.ofDecimal negative digits (p - part.length))
  | _, _ => none

end Runbook

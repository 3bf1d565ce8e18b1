import Runbook.Number.Power

/-!
# Numbers in double precision

A finite number is a sign, a mantissa below `2 ^ 53` and a power of two of at least `2 ^ (-1074)`,
in the one form whose mantissa is at least `2 ^ 52` unless the power is the least. Every operation
computes the exact result as a fraction and rounds it once, to the nearest number, a tie to the
even mantissa.
-/

namespace Runbook

/-- A number of 64 bits: no number at all, an infinity, or plus or minus `mantissa * 2 ^
exponent`. -/
inductive Binary64 where
  | nan
  | infinite (negative : Bool)
  | finite (negative : Bool) (mantissa : Nat) (exponent : Int)
  deriving DecidableEq, Repr, Inhabited

namespace Binary64

/-- The least exponent of two. -/
def minExponent : Int := -1074

/-- The greatest exponent of two. -/
def maxExponent : Int := 971

/-- Zero of the given sign. -/
def zero (negative : Bool) : Binary64 := .finite negative 0 minExponent

/-- The quotient rounded to the nearest natural number, a tie to the even one. -/
def divideEven (num den : Nat) : Nat :=
  let q := num / den
  let r := num % den
  if 2 * r < den then q else if den < 2 * r then q + 1 else if q % 2 = 0 then q else q + 1

/-- The fraction `num / den` as a numerator and denominator in units of `2 ^ e`. -/
def inUnits (num den : Nat) (e : Int) : Nat × Nat :=
  if 0 ≤ e then (num, den * twoTo e.toNat) else (num * twoTo (-e).toNat, den)

/-- The number nearest to plus or minus `num / den`, for a positive denominator. -/
def ofFraction (negative : Bool) (num den : Nat) : Binary64 :=
  if num = 0 then zero negative
  else
    let low : Int := max ((num.log2 : Int) - den.log2 - 53) minExponent
    let first := inUnits num den low
    let e : Int := if twoTo 53 ≤ first.1 / first.2 then low + 1 else low
    let scaled := inUnits num den e
    let m := divideEven scaled.1 scaled.2
    let (m, e) := if twoTo 53 ≤ m then (m / 2, e + 1) else (m, e)
    if maxExponent < e then .infinite negative else .finite negative m e

/-- The number nearest to an integer. -/
def ofInt (i : Int) : Binary64 := ofFraction (decide (i < 0)) i.natAbs 1

/-- The number nearest to plus or minus `digits * 10 ^ exponent`. The bounds on the exponent are
beyond the largest and below the smallest number, whatever the digits. -/
def ofDecimal (negative : Bool) (digits : Nat) (exponent : Int) : Binary64 :=
  let magnitude : Int := (Nat.toDigits 10 digits).length + exponent
  if digits = 0 ∨ magnitude < -400 then zero negative
  else if 400 < magnitude then .infinite negative
  else if 0 ≤ exponent then ofFraction negative (digits * tenTo exponent.toNat) 1
  else ofFraction negative digits (tenTo (-exponent).toNat)

/-- The mantissa with its sign. -/
def signed (negative : Bool) (mantissa : Nat) : Int := if negative then -mantissa else mantissa

/-- The number nearest to `m * 2 ^ e`; `negativeZero` is the sign of a result that is zero. -/
def ofScaled (negativeZero : Bool) (m : Int) (e : Int) : Binary64 :=
  if m = 0 then zero negativeZero
  else if 0 ≤ e then ofFraction (decide (m < 0)) (m.natAbs * twoTo e.toNat) 1
  else ofFraction (decide (m < 0)) m.natAbs (twoTo (-e).toNat)

/-- The number with the opposite sign. -/
def neg : Binary64 → Binary64
  | .nan => .nan
  | .infinite s => .infinite !s
  | .finite s m e => .finite (!s) m e

/-- The sum, rounded once. -/
def add : Binary64 → Binary64 → Binary64
  | .nan, _ | _, .nan => .nan
  | .infinite s, .infinite t => if s = t then .infinite s else .nan
  | .infinite s, .finite .. => .infinite s
  | .finite .., .infinite t => .infinite t
  | .finite s m e, .finite t n f =>
    let low := min e f
    ofScaled (s && t)
      (signed s m * twoTo (e - low).toNat + signed t n * twoTo (f - low).toNat) low

/-- The difference, rounded once. -/
def sub (x y : Binary64) : Binary64 := add x (neg y)

/-- The product, rounded once. -/
def mul : Binary64 → Binary64 → Binary64
  | .nan, _ | _, .nan => .nan
  | .infinite s, .infinite t => .infinite (s != t)
  | .infinite s, .finite t n _ => if n = 0 then .nan else .infinite (s != t)
  | .finite s m _, .infinite t => if m = 0 then .nan else .infinite (s != t)
  | .finite s m e, .finite t n f => ofScaled (s != t) (signed s m * signed t n) (e + f)

/-- The integer part of a finite number, toward zero. -/
def truncate? : Binary64 → Option Int
  | .finite s m e =>
    some (signed s (if 0 ≤ e then m * twoTo e.toNat else m / twoTo (-e).toNat))
  | _ => none

/-- The integer that a finite number without a fractional part is. -/
def toInt? : Binary64 → Option Int
  | .finite s m e =>
    if 0 ≤ e then some (signed s (m * twoTo e.toNat))
    else if m % twoTo (-e).toNat = 0 then some (signed s (m / twoTo (-e).toNat))
    else none
  | _ => none

/-- Whether the number is neither infinite nor no number. -/
def isFinite : Binary64 → Bool
  | .finite .. => true
  | _ => false

end Binary64

end Runbook

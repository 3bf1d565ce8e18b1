import Runbook.Number.Binary64

/-!
# The fewest digits that read back

Every decimal in the interval of reals that round to a number reads back as that number; the ends
of the interval belong to it when the mantissa is even. `shortest` looks for a decimal of one
digit in the interval, then of two, and so on. On each grid only the two neighbours of the number
can lie nearest to it, and of two neighbours in the interval the nearer one is taken.
-/

namespace Runbook.Binary64

/-- A decimal `digits * 10 ^ exponent`. -/
structure Decimal where
  digits : Nat
  exponent : Int
  deriving DecidableEq, Repr, Inhabited

/-- Compares two positive fractions of naturals by cross multiplication. -/
def fractionLt (a b : Nat × Nat) : Bool := a.1 * b.2 < b.1 * a.2

/-- The fraction `n * 10 ^ k`. -/
def decimalFraction (n : Nat) (k : Int) : Nat × Nat :=
  if 0 ≤ k then (n * tenTo k.toNat, 1) else (n, tenTo (-k).toNat)

/-- The fraction `n * 2 ^ k`. -/
def binaryFraction (n : Nat) (k : Int) : Nat × Nat :=
  if 0 ≤ k then (n * twoTo k.toNat, 1) else (n, twoTo (-k).toNat)

/-- The lower end of the interval of `m * 2 ^ e`: half a unit below, a quarter at a power of two. -/
def lowerEnd (m : Nat) (e : Int) : Nat × Nat :=
  if m = twoTo 52 ∧ e ≠ minExponent then binaryFraction (4 * m - 1) (e - 2)
  else binaryFraction (2 * m - 1) (e - 1)

/-- The upper end of the interval of `m * 2 ^ e`, half a unit above. -/
def upperEnd (m : Nat) (e : Int) : Nat × Nat := binaryFraction (2 * m + 1) (e - 1)

/-- Whether a fraction rounds to `m * 2 ^ e`. -/
def roundsTo (m : Nat) (e : Int) (x : Nat × Nat) : Bool :=
  if m % 2 = 0 then !fractionLt x (lowerEnd m e) && !fractionLt (upperEnd m e) x
  else fractionLt (lowerEnd m e) x && fractionLt x (upperEnd m e)

/-- The better of the two neighbours of `m * 2 ^ e` among the multiples of `10 ^ k`, if any of
them reads back. -/
def nearestOnGrid (m : Nat) (e : Int) (k : Int) : Option Nat :=
  let v := binaryFraction m e
  let unit := decimalFraction 1 k
  let below := (v.1 * unit.2) / (v.2 * unit.1)
  let rest := (v.1 * unit.2) % (v.2 * unit.1)
  let okBelow := below ≠ 0 && roundsTo m e (decimalFraction below k)
  let okAbove := roundsTo m e (decimalFraction (below + 1) k)
  let preferBelow := 2 * rest < v.2 * unit.1 || (2 * rest = v.2 * unit.1 && below % 2 = 0)
  if okBelow && (preferBelow || !okAbove) then some below
  else if okAbove then some (below + 1)
  else none

/-- The exponent of the leading decimal digit of a positive fraction. -/
def leadingExponent (v : Nat × Nat) : Int :=
  if v.2 ≤ v.1 then (Nat.toDigits 10 (v.1 / v.2)).length - 1
  else
    let guess := (Nat.toDigits 10 (v.2 / v.1)).length
    if v.2 ≤ v.1 * tenTo (guess - 1) then -((guess : Int) - 1) else -(guess : Int)

/-- Searches the grids from coarse to fine; seventeen digits always read back. -/
def shortestFrom (m : Nat) (e : Int) (k : Int) : Nat → Decimal
  | 0 => ⟨(nearestOnGrid m e k).getD 0, k⟩
  | more + 1 =>
    match nearestOnGrid m e k with
    | some n => ⟨n, k⟩
    | none => shortestFrom m e (k - 1) more

/-- Drops the trailing zeros of a decimal, at most `fuel` of them. -/
def dropZeros : Nat → Decimal → Decimal
  | 0, d => d
  | fuel + 1, d =>
    if d.digits ≠ 0 ∧ d.digits % 10 = 0 then dropZeros fuel ⟨d.digits / 10, d.exponent + 1⟩ else d

/-- The decimal of fewest digits that reads back as `m * 2 ^ e`, for a positive mantissa. -/
def shortest (m : Nat) (e : Int) : Decimal :=
  dropZeros 20 (shortestFrom m e (leadingExponent (binaryFraction m e)) 17)

end Runbook.Binary64

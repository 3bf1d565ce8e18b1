/-!
# Powers and sums

Powers of two bound the words of a machine, and powers of ten are the values of decimal places.
-/

namespace Runbook

/-- A power of two. -/
def twoTo (n : Nat) : Nat := Nat.pow 2 n

/-- A power of ten. -/
def tenTo (n : Nat) : Nat := Nat.pow 10 n

/-- The sum of numbers. -/
def sumOf : List Nat → Nat
  | [] => 0
  | n :: rest => n + sumOf rest

end Runbook

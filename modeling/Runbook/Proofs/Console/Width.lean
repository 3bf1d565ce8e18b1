import Runbook.Console.CellWidth
import Runbook.Number.Power

/-!
# Bounds of widths

A character by itself takes two cells at most. What stands around it changes this only where a
selector makes a picture of it, which then grows by a cell; so the characters of a text and its
selectors bound the cells that it takes.
-/

namespace Runbook.Console

/-- The cells of a character by itself, and the one that a selector can add. -/
def weight (c : Char) : Nat := if c == pictureSelector then 1 else charWidth c

/-- A bound on the cells that a text takes, whatever stands around it. -/
def weigh (s : List Char) : Nat := sumOf (s.map weight)

@[simp] theorem weigh_nil : weigh [] = 0 := rfl

@[simp] theorem weigh_cons (c : Char) (s : List Char) : weigh (c :: s) = weight c + weigh s := rfl

@[simp] theorem weigh_append (s t : List Char) : weigh (s ++ t) = weigh s + weigh t := by
  induction s with
  | nil => simp
  | cons c s ih =>
      rw [List.cons_append, weigh_cons, weigh_cons, ih]
      omega

theorem weigh_mono {s t : List Char} (h : s <+: t) : weigh s ≤ weigh t := by
  obtain ⟨rest, rfl⟩ := h
  rw [weigh_append]
  omega

theorem weight_le_two (c : Char) : weight c ≤ 2 := by
  have own : charWidth c ≤ 2 := by
    unfold charWidth
    dsimp only
    repeat' split
    all_goals omega
  rw [weight]
  split <;> omega

theorem weigh_le (s : List Char) : weigh s ≤ 2 * s.length := by
  induction s with
  | nil => exact Nat.le_refl 0
  | cons c s ih =>
      have two := weight_le_two c
      rw [weigh_cons, List.length_cons]
      omega

/-- Joiners and selectors never make a text wider than its characters and selectors are. -/
theorem widthFrom_le_weigh (joined : Bool) (last : Option Char) (s : List Char) :
    widthFrom joined last s ≤ weigh s := by
  induction s generalizing joined last with
  | nil => exact Nat.le_refl 0
  | cons c s ih =>
      rw [widthFrom, weigh_cons]
      split
      · have := ih false last
        omega
      split
      · have := ih true last
        omega
      split
      · next selects =>
        have := ih false none
        rw [weight, if_pos selects]
        split <;> omega
      · next other =>
        have := ih false (if charWidth c = 0 then last else some c)
        rw [weight, if_neg other]
        dsimp only
        omega

theorem width_le_weigh (s : List Char) : width s ≤ weigh s := widthFrom_le_weigh false none s

/-- Whether a character is a printable one of ASCII. -/
def isPrintable (c : Char) : Bool := 0x20 ≤ c.toNat && c.toNat ≤ 0x7E

theorem weight_of_printable {c : Char} (h : isPrintable c = true) : weight c = 1 := by
  have other : ¬c == pictureSelector := by
    intro same
    rw [eq_of_beq same] at h
    exact absurd h (by decide)
  rw [isPrintable] at h
  rw [weight, if_neg other]
  simp only [charWidth, h, if_true]

/-- Each printable character takes one cell. -/
theorem weigh_of_printable {s : List Char} (h : s.all isPrintable = true) :
    weigh s = s.length := by
  induction s with
  | nil => rfl
  | cons c s ih =>
      obtain ⟨printable, others⟩ : isPrintable c = true ∧ s.all isPrintable = true := by
        simpa only [List.all_cons, Bool.and_eq_true] using h
      rw [weigh_cons, List.length_cons, weight_of_printable printable, ih others, Nat.add_comm]

end Runbook.Console

import Runbook.Proofs.Json.RoundTrip

/-!
# The characters of written data

Every character of a text is written with ASCII characters only, and so are integers and what stands
between items. The text of a value holds no other character, whatever the layout.
-/

namespace Runbook.Json

/-- A text of ASCII characters. -/
def Ascii (s : List Char) : Prop := ∀ c ∈ s, c.toNat < 0x80

section Closure

@[simp] theorem ascii_nil : Ascii [] := by simp [Ascii]

@[simp] theorem ascii_cons_iff {c : Char} {s : List Char} :
    Ascii (c :: s) ↔ c.toNat < 0x80 ∧ Ascii s := List.forall_mem_cons

@[simp] theorem ascii_append_iff {s t : List Char} : Ascii (s ++ t) ↔ Ascii s ∧ Ascii t :=
  List.forall_mem_append

theorem ascii_flatMap {α : Type} {items : List α} {text : α → List Char}
    (h : ∀ item ∈ items, Ascii (text item)) : Ascii (items.flatMap text) := by
  intro c mem
  obtain ⟨item, stands, inside⟩ := List.mem_flatMap.mp mem
  exact h item stands c inside

end Closure

section Scalars

theorem ascii_unitEscape (n : Nat) : Ascii (unitEscape n) := by
  have digit : ∀ d < 16, (hexDigit d).toNat < 0x80 := by decide
  have last (m : Nat) : (hexDigit (m % 16)).toNat < 0x80 := digit _ (Nat.mod_lt m (by decide))
  simp [unitEscape, hex4, last]

/-- A character is written with ASCII characters, as a pair of units if it is beyond them. -/
theorem ascii_escapeChar (c : Char) : Ascii (escapeChar c) := by
  unfold escapeChar
  -- All branches but the printable characters are fixed texts or units.
  split_ifs with quote backslash feed carriage tab back form printable
  all_goals simp [ascii_unitEscape]
  omega

theorem ascii_quoted (s : String) : Ascii (quoted s) := by
  have inside : Ascii (s.toList.flatMap escapeChar) := ascii_flatMap fun c _ => ascii_escapeChar c
  simp [quoted, inside]

theorem ascii_decimalText (i : Int) : Ascii (decimalText i).toList := by
  intro c mem
  have numeric := isNumberChar_of_mem_decimalText mem
  simp only [isNumberChar, Bool.or_eq_true, beq_iff_eq] at numeric
  obtain ((((digit | rfl) | rfl) | rfl) | rfl) | rfl := numeric
  · have range : '0' ≤ c ∧ c ≤ '9' := by simpa [Char.isDigit, Char.le_def] using digit
    have most : c.toNat ≤ 57 := range.2
    omega
  all_goals decide

end Scalars

section Layouts

variable (layout : Layout) (depth : Nat)

theorem ascii_margin : Ascii (layout.margin depth) := by
  intro c mem
  have blank := spaces_margin layout depth c mem
  simp only [isSpace, Bool.or_eq_true, beq_iff_eq] at blank
  obtain ((rfl | rfl) | rfl) | rfl := blank <;> decide

theorem ascii_divider : Ascii layout.divider := by
  cases layout <;> simp [Layout.divider]

/-- Brackets, margins and dividers are ASCII characters. -/
theorem ascii_bracketed {opening closing : Char} (opens : opening.toNat < 0x80)
    (closes : closing.toNat < 0x80) {items : List (List Char)} (h : ∀ item ∈ items, Ascii item) :
    Ascii (bracketed layout depth opening closing items) := by
  cases items with
  | nil => simp [bracketed, opens, closes]
  | cons first others =>
      obtain ⟨own, more⟩ := List.forall_mem_cons.mp h
      have later : Ascii (followed layout (depth + 1) others) := by
        apply ascii_flatMap
        intro item mem
        simp [ascii_divider, ascii_margin, more item mem]
      simp [bracketed_cons, opens, closes, own, later, ascii_margin]

end Layouts

/-- The text of a value holds ASCII characters only. -/
theorem Faithful.ascii_chars {value : Json} (h : Faithful value) (layout : Layout) (depth : Nat) :
    Ascii (chars layout depth value) := by
  induction h generalizing depth with
  | null => simp [chars]
  | bool b => cases b <;> simp [chars]
  | int i => simpa [chars] using ascii_decimalText i
  | str s => simpa [chars] using ascii_quoted s
  | arr faithful ih =>
      rw [chars, itemChars_eq_map]
      apply ascii_bracketed layout depth (by decide) (by decide)
      rw [List.forall_mem_map]
      exact fun item mem => ih item mem (depth + 1)
  | obj nodup faithful ih =>
      rw [chars, memberChars_eq_map]
      apply ascii_bracketed layout depth (by decide) (by decide)
      rw [List.forall_mem_map]
      intro member mem
      simp [memberText, ascii_quoted, ih member mem (depth + 1)]

end Runbook.Json

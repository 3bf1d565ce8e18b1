import Runbook.Json.Reader
import Runbook.Proofs.Document.Span

/-!
# Strings and numbers read back

A written string is read back character by character, whatever stands behind its closing quote, and
a written integer up to the first character that belongs to no number.
-/

namespace Runbook

section Decimal

theorem digitValue?_of_isDigit {c : Char} (h : c.isDigit = true) :
    digitValue? 10 c = some (c.toNat - 48) := by
  have range : '0' ≤ c ∧ c ≤ '9' := by
    simpa [Char.isDigit, Char.le_def] using h
  have small : c.toNat - 48 < 10 := by
    have most : c.toNat ≤ 57 := range.2
    omega
  simp [digitValue?, range, small]

/-- Digits stand for the number that they make up. -/
theorem foldl_digitValue? {s : List Char} (h : ∀ c ∈ s, c.isDigit = true) (n : Nat) :
    s.foldl (fun acc c => acc.bind fun n => (digitValue? 10 c).map (n * 10 + ·)) (some n) =
      some (Nat.ofDigitChars 10 s n) := by
  induction s generalizing n with
  | nil => rfl
  | cons c s ih =>
      obtain ⟨digit, digits⟩ := List.forall_mem_cons.mp h
      rw [List.foldl_cons, Option.bind_some, digitValue?_of_isDigit digit, Option.map_some,
        ih digits, Nat.ofDigitChars, Nat.ofDigitChars, List.foldl_cons, Nat.mul_comm n 10]
      rfl

theorem isDigit_of_mem_decimalDigits {n : Nat} {c : Char} (h : c ∈ decimalDigits n) :
    c.isDigit = true := Nat.isDigit_of_mem_toDigits (by decide) (by decide) h

/-- A natural number is read back from its digits. -/
theorem readNat?_decimalDigits (n : Nat) : readNat? 10 (decimalDigits n) = some n := by
  have nonempty : (decimalDigits n).isEmpty = false := by
    simp [decimalDigits]
  rw [readNat?, nonempty]
  simp only [Bool.false_eq_true, if_false]
  rw [foldl_digitValue? (fun c => isDigit_of_mem_decimalDigits) 0, decimalDigits,
    Nat.ofDigitChars_ten_toDigits]

end Decimal

namespace Json

section Strings

theorem digitValue?_hexDigit : ∀ d < 16, digitValue? 16 (hexDigit d) = some d := by decide

/-- A unit is read back from its four digits. -/
theorem readUnit?_hex4 {n : Nat} (h : n < 0x10000) :
    readUnit? (hexDigit (n / 4096 % 16)) (hexDigit (n / 256 % 16)) (hexDigit (n / 16 % 16))
      (hexDigit (n % 16)) = some n := by
  have digit (m : Nat) : digitValue? 16 (hexDigit (m % 16)) = some (m % 16) :=
    digitValue?_hexDigit _ (Nat.mod_lt m (by decide))
  have sum : ((n / 4096 % 16 * 16 + n / 256 % 16) * 16 + n / 16 % 16) * 16 + n % 16 = n := by omega
  simp [readUnit?, readNat?, digit, sum]

/-- What is read of the rest of a string, with one more character in front. -/
def withFront (c : Char) (read : Option (List Char × List Char)) :
    Option (List Char × List Char) :=
  read.map fun (body, after) => (c :: body, after)

variable (fuel : Nat) (rest : List Char)

theorem readString_simpleEscape {c plain : Char} (h : simpleEscape? c = some plain) :
    readString (fuel + 1) ('\\' :: c :: rest) = withFront plain (readString fuel rest) := by
  have ne : c ≠ 'u' := by
    rintro rfl
    cases h
  simp [readString, h, ne, withFront]

theorem readString_plain {c : Char} (quote : c ≠ '\x22') (backslash : c ≠ '\\')
    (control : ¬c.toNat < 0x20) :
    readString (fuel + 1) (c :: rest) = withFront c (readString fuel rest) := by
  simp [readString, backslash, control, withFront]

theorem readString_unitEscape {n : Nat} (bound : n < 0x10000) (high : isHighHalf n = false)
    (low : isLowHalf n = false) :
    readString (fuel + 1) (unitEscape n ++ rest) =
      withFront (Char.ofNat n) (readString fuel rest) := by
  simp [unitEscape, hex4, readString, readUnit?_hex4 bound, high, low, withFront]

theorem readString_pair {m : Nat} (bound : m < 0x100000) :
    readString (fuel + 1)
        (unitEscape (0xD800 + m / 0x400) ++ (unitEscape (0xDC00 + m % 0x400) ++ rest)) =
      withFront (Char.ofNat (0x10000 + m)) (readString fuel rest) := by
  have first : 0xD800 + m / 0x400 < 0x10000 := by omega
  have second : 0xDC00 + m % 0x400 < 0x10000 := by omega
  have high : isHighHalf (0xD800 + m / 0x400) = true := by
    simp only [isHighHalf, Bool.and_eq_true, decide_eq_true_eq]
    omega
  have low : isLowHalf (0xDC00 + m % 0x400) = true := by
    simp only [isLowHalf, Bool.and_eq_true, decide_eq_true_eq]
    omega
  have code : 0x10000 + m / 0x400 * 0x400 + m % 0x400 = 0x10000 + m := by omega
  simp [unitEscape, hex4, readString, readUnit?_hex4 first, readUnit?_hex4 second, high, low, code,
    withFront]

/-- A character is no half of a pair. -/
theorem isHalf_toNat (c : Char) : isHighHalf c.toNat = false ∧ isLowHalf c.toNat = false := by
  have valid := c.valid
  simp only [UInt32.isValidChar, Nat.isValidChar] at valid
  change c.toNat < _ ∨ _ < c.toNat ∧ c.toNat < _ at valid
  constructor
  · simp only [isHighHalf, Bool.and_eq_false_iff, decide_eq_false_iff_not]
    omega
  · simp only [isLowHalf, Bool.and_eq_false_iff, decide_eq_false_iff_not]
    omega

/-- The ways in which a character is written. -/
inductive Escapes (c : Char) : List Char → Prop
  | simple {e : Char} (h : simpleEscape? e = some c) : Escapes c ['\\', e]
  | plain (quote : c ≠ '\x22') (backslash : c ≠ '\\') (control : ¬c.toNat < 0x20) : Escapes c [c]
  | unit (bound : c.toNat < 0x10000) : Escapes c (unitEscape c.toNat)
  | pair {m : Nat} (bound : m < 0x100000) (code : c.toNat = 0x10000 + m) :
    Escapes c (unitEscape (0xD800 + m / 0x400) ++ unitEscape (0xDC00 + m % 0x400))

theorem escapes_escapeChar (c : Char) : Escapes c (escapeChar c) := by
  unfold escapeChar
  split
  · next h => exact .simple (by rw [eq_of_beq h]; rfl)
  · next quote =>
    split
    · next h => exact .simple (by rw [eq_of_beq h]; rfl)
    · next backslash =>
      split
      · next h => exact .simple (by rw [eq_of_beq h]; rfl)
      split
      · next h => exact .simple (by rw [eq_of_beq h]; rfl)
      split
      · next h => exact .simple (by rw [eq_of_beq h]; rfl)
      split
      · next h => exact .simple (by rw [eq_of_beq h]; rfl)
      split
      · next h => exact .simple (by rw [eq_of_beq h]; rfl)
      split
      · next printable =>
        exact .plain (by simpa using quote) (by simpa using backslash) (by omega)
      split
      · next bound => exact .unit bound
      · next beyond =>
        have bound : c.toNat < 0x110000 := by
          have valid := c.valid
          simp only [UInt32.isValidChar, Nat.isValidChar] at valid
          change c.toNat < _ ∨ _ < c.toNat ∧ c.toNat < _ at valid
          omega
        exact .pair (by omega) (by omega)

theorem Escapes.ne_nil {c : Char} {s : List Char} (h : Escapes c s) : s ≠ [] := by
  cases h <;> simp [unitEscape]

/-- A written character is read back. -/
theorem Escapes.readString {c : Char} {s : List Char} (h : Escapes c s) :
    readString (fuel + 1) (s ++ rest) = withFront c (readString fuel rest) := by
  obtain ⟨high, low⟩ := isHalf_toNat c
  cases h with
  | simple h => exact readString_simpleEscape fuel rest h
  | plain quote backslash control => exact readString_plain fuel rest quote backslash control
  | unit bound =>
      rw [readString_unitEscape fuel rest bound high low, Char.ofNat_toNat]
  | pair bound code =>
      rw [List.append_assoc, readString_pair fuel rest bound, ← code, Char.ofNat_toNat]

/-- A written string is read back up to its closing quote. -/
theorem readString_flatMap {s : List Char} (enough : s.length < fuel) :
    readString fuel (s.flatMap escapeChar ++ '\x22' :: rest) = some (s, rest) := by
  induction s generalizing fuel with
  | nil =>
      obtain ⟨fuel, rfl⟩ := Nat.exists_eq_add_of_lt enough
      rfl
  | cons c s ih =>
      cases fuel with
      | zero => simp at enough
      | succ fuel =>
          rw [List.flatMap_cons, List.append_assoc, (escapes_escapeChar c).readString,
            ih fuel (by simpa using enough)]
          rfl

theorem length_le_length_flatMap (s : List Char) :
    s.length ≤ (s.flatMap escapeChar).length := by
  induction s with
  | nil => simp
  | cons c s ih =>
      have one := List.length_pos_iff.mpr (escapes_escapeChar c).ne_nil
      simp only [List.flatMap_cons, List.length_append, List.length_cons]
      omega

/-- Behind its opening quote a string is read back with the fuel that its text gives. -/
theorem readString_quoted (s : String) :
    let text := s.toList.flatMap escapeChar ++ '\x22' :: rest
    readString (text.length + 1) text = some (s.toList, rest) := by
  have short := length_le_length_flatMap s.toList
  refine readString_flatMap _ rest ?_
  simp only [List.length_append]
  omega

end Strings

section Numbers

theorem isNumberChar_of_isDigit {c : Char} (h : c.isDigit = true) : isNumberChar c = true := by
  simp [isNumberChar, h]

/-- A digit is neither a sign nor a mark of a double. -/
theorem ne_of_isDigit {c : Char} (h : c.isDigit = true) {d : Char} (other : d.isDigit = false) :
    c ≠ d := by
  rintro rfl
  rw [h] at other
  cases other

theorem any_mark_decimalDigits (n : Nat) :
    ((decimalDigits n).any fun c => c == '.' || c == 'e' || c == 'E') = false := by
  rw [List.any_eq_false]
  intro c mem
  have digit := isDigit_of_mem_decimalDigits mem
  simp [ne_of_isDigit digit (d := '.') rfl, ne_of_isDigit digit (d := 'e') rfl,
    ne_of_isDigit digit (d := 'E') rfl]

theorem splitSign_decimalDigits (n : Nat) :
    splitSign (decimalDigits n) = (false, decimalDigits n) := by
  have unsigned (d : Char) (other : d.isDigit = false) : d ∉ decimalDigits n := by
    intro mem
    exact ne_of_isDigit (isDigit_of_mem_decimalDigits mem) other rfl
  unfold splitSign
  split
  · next rest same => exact absurd (same ▸ List.mem_cons_self) (unsigned '-' rfl)
  · next rest same => exact absurd (same ▸ List.mem_cons_self) (unsigned '+' rfl)
  · rfl

/-- An integer is read back from its text. -/
theorem number?_decimalText (i : Int) : number? (decimalText i).toList = some (.int i) := by
  cases i with
  | ofNat n =>
      simp [decimalText, number?, any_mark_decimalDigits, splitSign_decimalDigits,
        readNat?_decimalDigits]
  | negSucc n =>
      simp [decimalText, number?, any_mark_decimalDigits, splitSign, readNat?_decimalDigits]
      omega

/-- The text of an integer starts with a digit or with a minus sign before one. -/
theorem exists_decimalText_eq (i : Int) :
    ∃ c s, (decimalText i).toList = c :: s ∧
      (c.isDigit = true ∨ c = '-' ∧ ∃ d t, s = d :: t ∧ d.isDigit = true) := by
  have digits (n : Nat) : ∃ c s, decimalDigits n = c :: s ∧ c.isDigit = true := by
    have nonempty : decimalDigits n ≠ [] := by simp [decimalDigits]
    obtain ⟨c, s, same⟩ := List.exists_cons_of_ne_nil nonempty
    exact ⟨c, s, same, isDigit_of_mem_decimalDigits (same ▸ List.mem_cons_self)⟩
  cases i with
  | ofNat n =>
      obtain ⟨c, s, same, digit⟩ := digits n
      exact ⟨c, s, by simp [decimalText, same], Or.inl digit⟩
  | negSucc n =>
      obtain ⟨c, s, same, digit⟩ := digits (n + 1)
      exact ⟨'-', c :: s, by simp [decimalText, same], Or.inr ⟨rfl, c, s, rfl, digit⟩⟩

theorem isNumberChar_of_mem_decimalText {i : Int} {c : Char} (h : c ∈ (decimalText i).toList) :
    isNumberChar c = true := by
  cases i with
  | ofNat n =>
      rw [decimalText, String.toList_ofList] at h
      exact isNumberChar_of_isDigit (isDigit_of_mem_decimalDigits h)
  | negSucc n =>
      rw [decimalText, String.toList_ofList] at h
      obtain rfl | mem := List.mem_cons.mp h
      · rfl
      · exact isNumberChar_of_isDigit (isDigit_of_mem_decimalDigits mem)

end Numbers

end Json

end Runbook

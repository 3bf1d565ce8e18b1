import Runbook.Text.Utf8

/-!
# Reading what was encoded

A text is read back from the bytes that encode it, whatever its characters. Only a text that starts
with the mark is encoded by bytes that start with the bytes of the mark, so that dropping the mark
leaves every other encoded text as it is.
-/

namespace Runbook.Text

/-- The character whose encoding is the mark. -/
def markChar : Char := '\uFEFF'

/-- The bytes of the mark. -/
def markBytes : List UInt8 := [0xEF, 0xBB, 0xBF]

/-- The bytes of a character that was read are passed over. -/
theorem decodeFrom_tail (position : Nat) (tail rest : List UInt8) :
    decodeFrom position tail.length (tail ++ rest) =
      decodeFrom (position + tail.length) 0 rest := by
  induction tail generalizing position with
  | nil => rfl
  | cons b tail ih =>
      rw [List.length_cons, List.cons_append, decodeFrom, ih]
      congr 1
      omega

theorem continuation_cons {low high : Nat} {b : UInt8} (above : low ≤ b.toNat)
    (below : b.toNat ≤ high) (code done more : Nat) (rest : List UInt8) :
    continuation low high code done (more + 1) (b :: rest) =
      continuation 0x80 0xBF (code * 64 + (b.toNat - 0x80)) (done + 1) more rest := by
  rw [continuation, if_pos ⟨above, below⟩]

/-- A lead byte with the bytes behind it is read as one character. -/
theorem decodeFrom_lead {b : UInt8} {tail rest : List UInt8} {low high code : Nat}
    (wide : 0x80 ≤ b.toNat) (lead : leadByte? b = some (tail.length + 1, low, high))
    (read : continuation low high (b.toNat % twoTo (7 - (tail.length + 1))) 1 tail.length
      (tail ++ rest) = .ok code) (position : Nat) :
    decodeFrom position 0 (b :: (tail ++ rest)) =
      (decodeFrom (position + 1 + tail.length) 0 rest).map (Char.ofNat code :: ·) := by
  rw [decodeFrom, if_neg (Nat.not_lt.mpr wide), lead]
  simp only [Nat.add_sub_cancel, read, decodeFrom_tail]

theorem toNat_byte {n : Nat} (h : n < 256) : (UInt8.ofNat n).toNat = n :=
  UInt8.toNat_ofNat_of_lt' h

section Char

variable (c : Char) (position : Nat) (rest : List UInt8)

theorem toNat_valid : c.toNat < 0xD800 ∨ 0xDFFF < c.toNat ∧ c.toNat < 0x110000 := c.valid

theorem decodeFrom_oneByte (h : c.toNat < 0x80) :
    decodeFrom position 0 (UInt8.ofNat c.toNat :: rest) =
      (decodeFrom (position + 1) 0 rest).map (c :: ·) := by
  have byte : (UInt8.ofNat c.toNat).toNat = c.toNat := toNat_byte (by omega)
  rw [decodeFrom, byte, if_pos h, Char.ofNat_toNat]

theorem decodeFrom_twoBytes (h : 0x80 ≤ c.toNat) (h' : c.toNat < 0x800) :
    decodeFrom position 0
        (UInt8.ofNat (c.toNat / 64 % 32 + 192) :: ([UInt8.ofNat (c.toNat % 64 + 128)] ++ rest)) =
      (decodeFrom (position + 2) 0 rest).map (c :: ·) := by
  have first : (UInt8.ofNat (c.toNat / 64 % 32 + 192)).toNat = c.toNat / 64 + 192 := by
    rw [toNat_byte (by omega)]
    omega
  have second : (UInt8.ofNat (c.toNat % 64 + 128)).toNat = c.toNat % 64 + 128 :=
    toNat_byte (by omega)
  have lead : leadByte? (UInt8.ofNat (c.toNat / 64 % 32 + 192)) = some (2, 0x80, 0xBF) := by
    simp only [leadByte?, first]
    rw [if_pos (by omega)]
  have code : (c.toNat / 64 + 192) % twoTo 5 * 64 + (c.toNat % 64 + 128 - 128) = c.toNat := by
    rw [show twoTo 5 = 32 from rfl]
    omega
  refine (decodeFrom_lead (by omega) lead ?_ position).trans (by rw [Char.ofNat_toNat]; rfl)
  rw [List.length_singleton, List.singleton_append,
    continuation_cons (by omega) (by omega), continuation, first, second, code]

theorem decodeFrom_threeBytes (h : 0x800 ≤ c.toNat) (h' : c.toNat < 0x10000) :
    decodeFrom position 0
        (UInt8.ofNat (c.toNat / 4096 % 16 + 224) ::
          ([UInt8.ofNat (c.toNat / 64 % 64 + 128), UInt8.ofNat (c.toNat % 64 + 128)] ++ rest)) =
      (decodeFrom (position + 3) 0 rest).map (c :: ·) := by
  have valid := toNat_valid c
  have first : (UInt8.ofNat (c.toNat / 4096 % 16 + 224)).toNat = c.toNat / 4096 + 224 := by
    rw [toNat_byte (by omega)]
    omega
  have second : (UInt8.ofNat (c.toNat / 64 % 64 + 128)).toNat = c.toNat / 64 % 64 + 128 :=
    toNat_byte (by omega)
  have third : (UInt8.ofNat (c.toNat % 64 + 128)).toNat = c.toNat % 64 + 128 :=
    toNat_byte (by omega)
  -- The bounds on the second byte keep out longer forms and halves of characters.
  obtain ⟨low, high, lead, above, below⟩ : ∃ low high,
      leadByte? (UInt8.ofNat (c.toNat / 4096 % 16 + 224)) = some (3, low, high) ∧
        low ≤ c.toNat / 64 % 64 + 128 ∧ c.toNat / 64 % 64 + 128 ≤ high := by
    simp only [leadByte?, first]
    rw [if_neg (by omega)]
    by_cases zero : c.toNat / 4096 = 0
    · exact ⟨0xA0, 0xBF, if_pos (by omega), by omega, by omega⟩
    · rw [if_neg (by omega)]
      by_cases half : c.toNat / 4096 = 13
      · exact ⟨0x80, 0x9F, if_pos (by omega), by omega, by omega⟩
      · rw [if_neg (by omega)]
        exact ⟨0x80, 0xBF, if_pos (by omega), by omega, by omega⟩
  have code : ((c.toNat / 4096 + 224) % twoTo 4 * 64 + (c.toNat / 64 % 64 + 128 - 128)) * 64 +
      (c.toNat % 64 + 128 - 128) = c.toNat := by
    rw [show twoTo 4 = 16 from rfl]
    omega
  refine (decodeFrom_lead (by omega) lead ?_ position).trans (by rw [Char.ofNat_toNat]; rfl)
  simp only [List.length_cons, List.length_nil, List.cons_append, List.nil_append]
  rw [continuation_cons (by omega) (by omega), continuation_cons (by omega) (by omega),
    continuation, first, second, third, code]

theorem decodeFrom_fourBytes (h : 0x10000 ≤ c.toNat) :
    decodeFrom position 0
        (UInt8.ofNat (c.toNat / 262144 % 8 + 240) ::
          ([UInt8.ofNat (c.toNat / 4096 % 64 + 128), UInt8.ofNat (c.toNat / 64 % 64 + 128),
            UInt8.ofNat (c.toNat % 64 + 128)] ++ rest)) =
      (decodeFrom (position + 4) 0 rest).map (c :: ·) := by
  have valid := toNat_valid c
  have first : (UInt8.ofNat (c.toNat / 262144 % 8 + 240)).toNat = c.toNat / 262144 + 240 := by
    rw [toNat_byte (by omega)]
    omega
  have second : (UInt8.ofNat (c.toNat / 4096 % 64 + 128)).toNat = c.toNat / 4096 % 64 + 128 :=
    toNat_byte (by omega)
  have third : (UInt8.ofNat (c.toNat / 64 % 64 + 128)).toNat = c.toNat / 64 % 64 + 128 :=
    toNat_byte (by omega)
  have fourth : (UInt8.ofNat (c.toNat % 64 + 128)).toNat = c.toNat % 64 + 128 :=
    toNat_byte (by omega)
  obtain ⟨low, high, lead, above, below⟩ : ∃ low high,
      leadByte? (UInt8.ofNat (c.toNat / 262144 % 8 + 240)) = some (4, low, high) ∧
        low ≤ c.toNat / 4096 % 64 + 128 ∧ c.toNat / 4096 % 64 + 128 ≤ high := by
    simp only [leadByte?, first]
    rw [if_neg (by omega), if_neg (by omega), if_neg (by omega), if_neg (by omega)]
    by_cases zero : c.toNat / 262144 = 0
    · exact ⟨0x90, 0xBF, if_pos (by omega), by omega, by omega⟩
    · rw [if_neg (by omega)]
      by_cases last : c.toNat / 262144 = 4
      · rw [if_neg (by omega)]
        exact ⟨0x80, 0x8F, if_pos (by omega), by omega, by omega⟩
      · exact ⟨0x80, 0xBF, if_pos (by omega), by omega, by omega⟩
  have code : (((c.toNat / 262144 + 240) % twoTo 3 * 64 + (c.toNat / 4096 % 64 + 128 - 128)) * 64 +
      (c.toNat / 64 % 64 + 128 - 128)) * 64 + (c.toNat % 64 + 128 - 128) = c.toNat := by
    rw [show twoTo 3 = 8 from rfl]
    omega
  refine (decodeFrom_lead (by omega) lead ?_ position).trans (by rw [Char.ofNat_toNat]; rfl)
  simp only [List.length_cons, List.length_nil, List.cons_append, List.nil_append]
  rw [continuation_cons (by omega) (by omega), continuation_cons (by omega) (by omega),
    continuation_cons (by omega) (by omega), continuation, first, second, third, fourth, code]

/-- The bytes of a character are read as this character, and what follows them is read on. -/
theorem exists_decodeFrom_utf8EncodeChar :
    ∃ behind, decodeFrom position 0 (String.utf8EncodeChar c ++ rest) =
      (decodeFrom behind 0 rest).map (c :: ·) := by
  rw [String.utf8EncodeChar]
  change ∃ behind, decodeFrom position 0 ((if c.toNat ≤ 0x7F then _ else _) ++ rest) = _
  by_cases one : c.toNat ≤ 0x7F
  · rw [if_pos one]
    exact ⟨_, decodeFrom_oneByte c position rest (by omega)⟩
  · rw [if_neg one]
    change ∃ behind, decodeFrom position 0 ((if c.toNat ≤ 0x7FF then _ else _) ++ rest) = _
    by_cases two : c.toNat ≤ 0x7FF
    · rw [if_pos two]
      exact ⟨_, decodeFrom_twoBytes c position rest (by omega) (by omega)⟩
    · rw [if_neg two]
      change ∃ behind, decodeFrom position 0 ((if c.toNat ≤ 0xFFFF then _ else _) ++ rest) = _
      by_cases three : c.toNat ≤ 0xFFFF
      · rw [if_pos three]
        exact ⟨_, decodeFrom_threeBytes c position rest (by omega) (by omega)⟩
      · rw [if_neg three]
        exact ⟨_, decodeFrom_fourBytes c position rest (by omega)⟩

end Char

theorem decodeFrom_encodeUtf8 (position : Nat) (s : List Char) :
    decodeFrom position 0 (encodeUtf8 s) = .ok s := by
  induction s generalizing position with
  | nil => rfl
  | cons c s ih =>
      obtain ⟨behind, read⟩ := exists_decodeFrom_utf8EncodeChar c position (encodeUtf8 s)
      rw [encodeUtf8, List.flatMap_cons, ← encodeUtf8, read, ih]
      rfl

/-- A text is read back from the bytes that encode it. -/
@[simp] theorem decodeUtf8_encodeUtf8 (s : List Char) : decodeUtf8 (encodeUtf8 s) = .ok s :=
  decodeFrom_encodeUtf8 0 s

/-- Bytes that start like the mark encode a text that starts with it. -/
theorem head?_of_encodeUtf8_eq {s : List Char} {rest : List UInt8}
    (h : encodeUtf8 s = markBytes ++ rest) : s.head? = some markChar := by
  have read : decodeUtf8 (markBytes ++ rest) =
      (decodeFrom 3 0 rest).map (markChar :: ·) := rfl
  rw [← h, decodeUtf8_encodeUtf8] at read
  cases behind : decodeFrom 3 0 rest with
  | error error =>
      rw [behind] at read
      cases read
  | ok others =>
      rw [behind] at read
      obtain rfl : s = markChar :: others := Except.ok.inj read
      rfl

theorem encodeUtf8_ne_of_error {s : List Char} {bytes : List UInt8}
    (h : ∃ error, decodeUtf8 bytes = .error error) : encodeUtf8 s ≠ bytes := by
  rintro rfl
  obtain ⟨error, read⟩ := h
  rw [decodeUtf8_encodeUtf8] at read
  cases read

/-- The bytes of a text that does not start with the mark are no mark, nor the start of one. -/
theorem dropMark_encodeUtf8 {s : List Char} (h : s.head? ≠ some markChar) :
    dropMark (encodeUtf8 s) = encodeUtf8 s := by
  unfold dropMark
  split
  · next rest same => exact absurd (head?_of_encodeUtf8_eq same) h
  · next same => exact absurd same (encodeUtf8_ne_of_error ⟨⟨0, 2, .truncated⟩, rfl⟩)
  · next same => exact absurd same (encodeUtf8_ne_of_error ⟨⟨0, 1, .truncated⟩, rfl⟩)
  · rfl

theorem dropMark_markBytes_append (bytes : List UInt8) :
    dropMark (markBytes ++ bytes) = bytes := rfl

end Runbook.Text

import Runbook.Proofs.Text.Words

/-!
# Texts with other newlines

A text without carriage returns can be written with each of the newlines that a file can have. It is
read back where newlines are read as line feeds. Where they are not, its lines, its words and its
blanks are the same up to the newlines, and a run of other characters at its start is the same.
-/

namespace Runbook

/-- The newlines that a file can have. -/
inductive Newline where
  | lineFeed
  | carriageReturn
  | both
  deriving DecidableEq, Repr

namespace Newline

/-- The characters of a newline. -/
def chars : Newline → List Char
  | lineFeed => ['\n']
  | carriageReturn => ['\r']
  | both => ['\r', '\n']

/-- The text in which every line feed is written as the newline. -/
def write (newline : Newline) (s : List Char) : List Char :=
  s.flatMap fun c => if c = '\n' then newline.chars else [c]

theorem write_cons (newline : Newline) (c : Char) (s : List Char) :
    newline.write (c :: s) = (if c = '\n' then newline.chars else [c]) ++ newline.write s := rfl

/-- Where line feeds are carriage returns no text starts with a line feed. -/
theorem head?_write_carriageReturn (s : List Char) :
    (carriageReturn.write s).head? ≠ some '\n' := by
  cases s with
  | nil => simp [write]
  | cons c s =>
      rw [write_cons]
      by_cases h : c = '\n'
      · simp [h, chars]
      · simp [h]

variable (newline : Newline)

theorem write_feed (s : List Char) : newline.write ('\n' :: s) = newline.chars ++ newline.write s :=
  rfl

theorem write_cons_of_ne {c : Char} (other : c ≠ '\n') (s : List Char) :
    newline.write (c :: s) = c :: newline.write s := by
  rw [write_cons, if_neg other, List.singleton_append]

theorem write_append (s t : List Char) :
    newline.write (s ++ t) = newline.write s ++ newline.write t :=
  List.flatMap_append

theorem write_flatten (lines : List (List Char)) :
    newline.write lines.flatten = (lines.map newline.write).flatten := by
  induction lines with
  | nil => rfl
  | cons line lines ih =>
      rw [List.flatten_cons, write_append, ih]
      rfl

theorem write_of_not_mem {s : List Char} (h : '\n' ∉ s) : newline.write s = s := by
  induction s with
  | nil => rfl
  | cons c s ih =>
      obtain ⟨other, rest⟩ := not_or.mp (List.mem_cons.not.mp h)
      rw [write_cons_of_ne newline (Ne.symm other), ih rest]

theorem exists_chars_eq_cons :
    ∃ c rest, newline.chars = c :: rest ∧ (c = '\n' ∨ c = '\r') := by
  cases newline with
  | lineFeed => exact ⟨_, _, rfl, .inl rfl⟩
  | carriageReturn => exact ⟨_, _, rfl, .inr rfl⟩
  | both => exact ⟨_, _, rfl, .inr rfl⟩

theorem allBlank_chars : Text.allBlank newline.chars = true := by
  cases newline <;> decide

section Runs

variable {p : Char → Bool} (feed : p '\n' = false) (carriage : p '\r' = false)
include feed carriage

theorem head_chars_stops {c : Char} {rest : List Char} (h : newline.chars = c :: rest) :
    p c = false := by
  obtain ⟨d, others, starts, rfl | rfl⟩ := newline.exists_chars_eq_cons
  · obtain ⟨rfl, -⟩ := List.cons.inj (h.symm.trans starts)
    exact feed
  · obtain ⟨rfl, -⟩ := List.cons.inj (h.symm.trans starts)
    exact carriage

/-- A run of characters that are in no newline is the same. -/
theorem takeWhile_write (s : List Char) : (newline.write s).takeWhile p = s.takeWhile p := by
  induction s with
  | nil => rfl
  | cons c s ih =>
      by_cases h : c = '\n'
      · subst h
        obtain ⟨d, rest, starts, -⟩ := newline.exists_chars_eq_cons
        have stops := newline.head_chars_stops feed carriage starts
        simp [write_feed, starts, stops, feed]
      · rw [write_cons_of_ne newline h, List.takeWhile_cons, List.takeWhile_cons, ih]

/-- What follows such a run is written with the same newline. -/
theorem dropWhile_write (s : List Char) :
    (newline.write s).dropWhile p = newline.write (s.dropWhile p) := by
  induction s with
  | nil => rfl
  | cons c s ih =>
      by_cases h : c = '\n'
      · subst h
        obtain ⟨d, rest, starts, -⟩ := newline.exists_chars_eq_cons
        have stops := newline.head_chars_stops feed carriage starts
        simp [write_feed, starts, stops, feed]
      · rw [write_cons_of_ne newline h, List.dropWhile_cons, List.dropWhile_cons, ih]
        split
        · rfl
        · rw [write_cons_of_ne newline h]

end Runs

theorem allBlank_write (s : List Char) : Text.allBlank (newline.write s) = Text.allBlank s := by
  have each (c : Char) :
      (if c = '\n' then newline.chars else [c]).all Text.isBlank = Text.isBlank c := by
    by_cases h : c = '\n'
    · subst h
      rw [if_pos rfl]
      exact newline.allBlank_chars
    · rw [if_neg h, List.all_cons, List.all_nil, Bool.and_true]
  rw [Text.allBlank, write, List.all_flatMap]
  simp only [each]
  rfl

end Newline

namespace Text

theorem unifyNewlines_cons_of_ne {c : Char} (h : c ≠ '\r') (s : List Char) :
    unifyNewlines (c :: s) = c :: unifyNewlines s := by
  rw [unifyNewlines]
  · rintro rest rfl
    exact absurd rfl h
  · rintro rfl
    exact absurd rfl h

theorem unifyNewlines_return {s : List Char} (h : s.head? ≠ some '\n') :
    unifyNewlines ('\r' :: s) = '\n' :: unifyNewlines s := by
  rw [unifyNewlines]
  rintro rest rfl
  exact absurd rfl h

/-- A text without carriage returns is read back, whichever newline it was written with. -/
theorem unifyNewlines_write (newline : Newline) {s : List Char} (plain : '\r' ∉ s) :
    unifyNewlines (newline.write s) = s := by
  induction s with
  | nil => rfl
  | cons c s ih =>
      have behind := ih fun mem => plain (List.mem_cons_of_mem c mem)
      have other : c ≠ '\r' := by
        rintro rfl
        exact plain List.mem_cons_self
      rw [Newline.write_cons]
      by_cases h : c = '\n'
      · subst h
        rw [if_pos rfl]
        cases newline with
        | lineFeed =>
            change unifyNewlines ('\n' :: Newline.lineFeed.write s) = _
            rw [unifyNewlines_cons_of_ne (by decide), behind]
        | carriageReturn =>
            change unifyNewlines ('\r' :: Newline.carriageReturn.write s) = _
            rw [unifyNewlines_return (Newline.head?_write_carriageReturn s), behind]
        | both =>
            change '\n' :: unifyNewlines (Newline.both.write s) = _
            rw [behind]
      · rw [if_neg h, List.singleton_append, unifyNewlines_cons_of_ne other, behind]

section Lines

/-- A newline ends the line that it is written in. -/
theorem lines_newline (newline : Newline) (s : List Char) :
    lines (newline.chars ++ newline.write s) = newline.chars :: lines (newline.write s) := by
  cases newline with
  | lineFeed => rfl
  | both => rfl
  | carriageReturn =>
      have ends : endsLine '\r' (Newline.carriageReturn.write s) = true := by
        have behind := Newline.head?_write_carriageReturn s
        simp [endsLine, isLineBreak, behind]
      rw [Newline.chars, List.singleton_append, lines, if_pos ends]

theorem map_write_extendFirst (newline : Newline) {c : Char} (other : c ≠ '\n')
    (parts : List (List Char)) :
    (extendFirst c parts).map newline.write = extendFirst c (parts.map newline.write) := by
  cases parts with
  | nil => rw [List.map_nil, extendFirst, List.map_singleton, newline.write_cons_of_ne other]; rfl
  | cons part parts =>
      rw [extendFirst, List.map_cons, List.map_cons, extendFirst, newline.write_cons_of_ne other]

/-- The lines of a text without carriage returns are its lines with the other newline. -/
theorem lines_write (newline : Newline) {s : List Char} (plain : '\r' ∉ s) :
    lines (newline.write s) = (lines s).map newline.write := by
  induction s with
  | nil => rfl
  | cons c s ih =>
      obtain ⟨returned, rest⟩ := not_or.mp (List.mem_cons.not.mp plain)
      have behind := ih rest
      have same := endsLine_of_ne (Ne.symm returned)
      by_cases h : c = '\n'
      · subst h
        have first : lines ('\n' :: s) = ['\n'] :: lines s := rfl
        rw [newline.write_feed, lines_newline, behind, first, List.map_cons]
        simp [Newline.write]
      · rw [newline.write_cons_of_ne h, lines, lines, same, same, behind]
        split
        · rw [List.map_cons, newline.write_of_not_mem (by simpa using Ne.symm h)]
        · exact (map_write_extendFirst newline h _).symm

/-- A line feed stands at the end of its line. -/
theorem exists_of_mem_lines {s line : List Char} (h : line ∈ lines s) :
    ∃ front, '\n' ∉ front ∧ (line = front ∨ line = front ++ ['\n']) := by
  induction s generalizing line with
  | nil => cases h
  | cons c s ih =>
      by_cases feed : c = '\n'
      · subst feed
        have first : lines ('\n' :: s) = ['\n'] :: lines s := rfl
        rw [first, List.mem_cons] at h
        obtain rfl | later := h
        · exact ⟨[], List.not_mem_nil, .inr rfl⟩
        · exact ih later
      · have single : '\n' ∉ [c] := by simpa using Ne.symm feed
        rw [lines] at h
        split at h
        · rw [List.mem_cons] at h
          obtain rfl | later := h
          · exact ⟨[c], single, .inl rfl⟩
          · exact ih later
        · cases found : lines s with
          | nil =>
              rw [found] at h
              obtain rfl : line = [c] := by simpa [extendFirst] using h
              exact ⟨[c], single, .inl rfl⟩
          | cons next others =>
              rw [found, extendFirst, List.mem_cons] at h
              obtain rfl | later := h
              · obtain ⟨front, none, shape⟩ := ih (found ▸ List.mem_cons_self)
                refine ⟨c :: front, by simp [none, Ne.symm feed], ?_⟩
                obtain rfl | rfl := shape
                · exact .inl rfl
                · exact .inr rfl
              · exact ih (found ▸ List.mem_cons_of_mem next later)

end Lines

section Trimmed

theorem trimEnd_append_blanks (s : List Char) {blanks : List Char} (h : allBlank blanks = true) :
    trimEnd (s ++ blanks) = trimEnd s := by
  have all : ∀ c ∈ blanks.reverse, isBlank c = true := by simpa [allBlank] using h
  rw [trimEnd, List.reverse_append, List.dropWhile_append_of_pos all, trimEnd]

/-- Blanks behind a text are trimmed. -/
theorem trim_append_blanks (s : List Char) {blanks : List Char} (h : allBlank blanks = true) :
    trim (s ++ blanks) = trim s := by
  rw [trim, trimStart, List.dropWhile_append]
  split
  · next empty =>
    have none : s.dropWhile isBlank = [] := by simpa using empty
    have gone : blanks.dropWhile isBlank = [] := by
      simpa [List.dropWhile_eq_nil_iff] using List.all_eq_true.mp h
    rw [gone, trim, trimStart, none]
  · exact trimEnd_append_blanks _ h

/-- What is trimmed of a line is the same with each newline. -/
theorem trim_write (newline : Newline) {s line : List Char} (h : line ∈ lines s) :
    trim (newline.write line) = trim line := by
  obtain ⟨front, none, rfl | rfl⟩ := exists_of_mem_lines h
  · rw [newline.write_of_not_mem none]
  · have written : newline.write (front ++ ['\n']) = front ++ newline.chars := by
      rw [newline.write_append, newline.write_of_not_mem none, newline.write_feed]
      simp [Newline.write]
    rw [written, trim_append_blanks front newline.allBlank_chars,
      trim_append_blanks front (by decide)]

end Trimmed

end Text

end Runbook

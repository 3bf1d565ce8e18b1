import Runbook.Text.Line

/-!
# Laws of lines and words

Lines keep their breaks, so that they join to the text, and a text is cut at the end of each of its
lines alone: behind a text that ends its last line, the lines of what follows are cut on their own.
The parts between the places of a mark are divided by every mark, hold none, and join to the text.
Words are read back from any text that writes a blank in front of each of them.
-/

namespace Runbook.Text

theorem isBlank_of_isLineBreak {c : Char} (h : isLineBreak c = true) : isBlank c = true := by
  simp only [isLineBreak, Bool.or_eq_true, Bool.and_eq_true, decide_eq_true_eq, beq_iff_eq] at h
  simp only [isBlank, blankRanges, List.any_cons, List.any_nil, Bool.or_eq_true,
    Bool.and_eq_true, decide_eq_true_eq]
  omega

section Blanks

theorem trimStart_of_head {s : List Char} (h : ∀ c, s.head? = some c → isBlank c = false) :
    trimStart s = s := by
  cases s with
  | nil => rfl
  | cons c s => simp [trimStart, h c rfl]

theorem trimEnd_append {s blanks : List Char} (h : allBlank blanks = true)
    (last : ∀ c, s.getLast? = some c → isBlank c = false) : trimEnd (s ++ blanks) = s := by
  have all : ∀ c ∈ blanks.reverse, isBlank c = true := by simpa [allBlank] using h
  have back : s.reverse.dropWhile isBlank = s.reverse :=
    trimStart_of_head fun c hc => last c (by simpa using hc)
  rw [trimEnd, List.reverse_append, List.dropWhile_append_of_pos all, back, List.reverse_reverse]

/-- Only the blanks behind a text that neither starts nor ends with one are trimmed. -/
theorem trim_append {s blanks : List Char} (h : allBlank blanks = true)
    (first : ∀ c, s.head? = some c → isBlank c = false)
    (last : ∀ c, s.getLast? = some c → isBlank c = false) (nonempty : s ≠ []) :
    trim (s ++ blanks) = s := by
  have start : ∀ c, (s ++ blanks).head? = some c → isBlank c = false := by
    cases s with
    | nil => exact absurd rfl nonempty
    | cons d s => exact first
  rw [trim, trimStart_of_head start, trimEnd_append h last]

end Blanks

section Lines

/-- The lines of a text join to the text. -/
@[simp] theorem flatten_lines (s : List Char) : (lines s).flatten = s := by
  induction s with
  | nil => rfl
  | cons c rest ih =>
      have extended : (extendFirst c (lines rest)).flatten = c :: (lines rest).flatten := by
        cases lines rest <;> rfl
      rw [lines]
      split
      · rw [List.flatten_cons, ih]
        rfl
      · rw [extended, ih]

theorem lines_ne_nil {s : List Char} (h : s ≠ []) : lines s ≠ [] := by
  intro none
  apply h
  rw [← flatten_lines s, none]
  rfl

theorem extendFirst_append {parts : List (List Char)} (h : parts ≠ []) (c : Char)
    (later : List (List Char)) : extendFirst c (parts ++ later) = extendFirst c parts ++ later := by
  cases parts with
  | nil => exact absurd rfl h
  | cons part parts => rfl

/-- A text whose last character ends its line is cut on its own. -/
theorem lines_append {s t : List Char}
    (h : ∀ c, s.getLast? = some c → endsLine c t = true) : lines (s ++ t) = lines s ++ lines t := by
  induction s with
  | nil => rfl
  | cons c s ih =>
      cases s with
      | nil =>
          have ends : endsLine c t = true := h c rfl
          have breaks : endsLine c [] = true := by
            simp only [endsLine, Bool.and_eq_true] at ends
            simp [endsLine, ends.1]
          simp [lines, ends, breaks]
      | cons d s =>
          have rest : lines (d :: s ++ t) = lines (d :: s) ++ lines t :=
            ih fun c hc => h c (by simpa using hc)
          have same : endsLine c (d :: s ++ t) = endsLine c (d :: s) := rfl
          rw [List.cons_append, lines, same, lines, rest]
          split
          · rfl
          · exact extendFirst_append (lines_ne_nil (List.cons_ne_nil d s)) c (lines t)

/-- A text without line breaks is one line with the break behind it. -/
theorem lines_line {s : List Char} (inline : ∀ c ∈ s, isLineBreak c = false) (t : List Char) :
    lines (s ++ '\n' :: t) = (s ++ ['\n']) :: lines t := by
  induction s with
  | nil => rfl
  | cons c s ih =>
      have hc : isLineBreak c = false := inline c (by simp)
      have hs : ∀ c ∈ s, isLineBreak c = false := fun d hd => inline d (by simp [hd])
      have goesOn : endsLine c (s ++ '\n' :: t) = false := by simp [endsLine, hc]
      rw [List.cons_append, lines, goesOn, ih hs]
      rfl

/-- In a text of one line at most, nothing stands behind a line feed. -/
theorem eq_nil_of_length_lines {s t : List Char} (h : (lines (s ++ '\n' :: t)).length ≤ 1) :
    t = [] := by
  have cut : lines (s ++ '\n' :: t) = lines (s ++ ['\n']) ++ lines t := by
    rw [← lines_append]
    · simp
    · intro c last
      obtain rfl : '\n' = c := by simpa using last
      rfl
  have first : 0 < (lines (s ++ ['\n'])).length :=
    List.length_pos_iff.mpr (lines_ne_nil (List.append_ne_nil_of_right_ne_nil s (by simp)))
  rw [cut, List.length_append] at h
  cases t with
  | nil => rfl
  | cons c t =>
      have later := List.length_pos_iff.mpr (lines_ne_nil (List.cons_ne_nil c t))
      omega

/-- Only a carriage return leaves the end of its line to what follows. -/
theorem endsLine_of_ne {c : Char} (other : c ≠ '\r') (t : List Char) :
    endsLine c t = isLineBreak c := by
  have single : (c == '\r') = false := beq_eq_false_iff_ne.mpr other
  simp [endsLine, single]

/-- Whether a line ends behind a character hangs on the next character only. -/
theorem endsLine_append {s : List Char} (h : s ≠ []) (c : Char) (t : List Char) :
    endsLine c (s ++ t) = endsLine c s := by
  cases s with
  | nil => exact absurd rfl h
  | cons d s => rfl

/-- A line that ends before a text also ends before a front of this text. -/
theorem endsLine_of_append {c : Char} {s t : List Char} (h : endsLine c (s ++ t) = true) :
    endsLine c s = true := by
  cases s with
  | nil =>
      simp only [endsLine, Bool.and_eq_true] at h
      simp [endsLine, h.1]
  | cons d s => exact h

/-- Some first lines of a text join to a text with these lines, and so do the lines behind them. -/
theorem lines_flatten_of_append {s : List Char} {first later : List (List Char)}
    (h : lines s = first ++ later) : lines first.flatten = first ∧ lines later.flatten = later := by
  induction s generalizing first with
  | nil =>
      obtain ⟨rfl, rfl⟩ : first = [] ∧ later = [] := by simpa [lines] using h
      exact ⟨rfl, rfl⟩
  | cons c s ih =>
      cases first with
      | nil =>
          rw [List.nil_append] at h
          exact ⟨rfl, by rw [← h, flatten_lines]⟩
      | cons line first =>
          rw [lines] at h
          split at h
          · next ends =>
            obtain ⟨rfl, rest⟩ : [c] = line ∧ lines s = first ++ later := by simpa using h
            obtain ⟨front, back⟩ := ih rest
            refine ⟨?_, back⟩
            have joined : s = first.flatten ++ later.flatten := by
              rw [← List.flatten_append, ← rest, flatten_lines]
            rw [joined] at ends
            rw [List.flatten_cons, List.singleton_append, lines, endsLine_of_append ends, front]
            rfl
          · next goesOn =>
            cases rest : lines s with
            | nil =>
                rw [rest] at h
                obtain ⟨rfl, rfl, rfl⟩ : [c] = line ∧ first = [] ∧ later = [] := by
                  simpa [extendFirst] using h
                obtain rfl : s = [] := by rw [← flatten_lines s, rest, List.flatten_nil]
                simp [lines, goesOn, extendFirst]
            | cons next others =>
                rw [rest] at h
                obtain ⟨rfl, rfl⟩ : c :: next = line ∧ others = first ++ later := by
                  simpa [extendFirst] using h
                have parts : lines s = (next :: first) ++ later := rest
                obtain ⟨front, back⟩ := ih parts
                refine ⟨?_, back⟩
                have joined : s = (next :: first).flatten ++ later.flatten := by
                  rw [← List.flatten_append, ← parts, flatten_lines]
                have filled : (next :: first).flatten ≠ [] := by
                  intro empty
                  rw [empty] at front
                  cases front
                rw [joined, endsLine_append filled, Bool.not_eq_true] at goesOn
                have whole : ((c :: next) :: first).flatten = c :: (next :: first).flatten := rfl
                rw [whole, lines, goesOn, front]
                rfl

end Lines

section Pieces

variable {mark : Char}

theorem splitOn_of_not_mem {s : List Char} (h : mark ∉ s) : splitOn mark s = [s] := by
  induction s with
  | nil => rfl
  | cons c s ih =>
      have other : (c == mark) = false := by
        simp only [beq_eq_false_iff_ne]
        rintro rfl
        exact h List.mem_cons_self
      rw [splitOn, other, ih fun mem => h (List.mem_cons_of_mem c mem)]
      rfl

theorem splitOn_ne_nil (mark : Char) (s : List Char) : splitOn mark s ≠ [] := by
  cases s with
  | nil => simp [splitOn]
  | cons c s =>
      rw [splitOn]
      split
      · simp
      · cases splitOn mark s <;> simp [extendFirst]

/-- A mark between two texts divides their parts. -/
theorem splitOn_append_cons (mark : Char) (s t : List Char) :
    splitOn mark (s ++ mark :: t) = splitOn mark s ++ splitOn mark t := by
  induction s with
  | nil => simp [splitOn]
  | cons c s ih =>
      rw [List.cons_append, splitOn, splitOn, ih]
      split
      · rfl
      · exact extendFirst_append (splitOn_ne_nil mark s) c (splitOn mark t)

/-- What stands behind a part of a text that has the given parts after it. -/
inductive Behind (mark : Char) : List Char → List (List Char) → Prop
  | last : Behind mark [] []
  | marked (s : List Char) : Behind mark (mark :: s) (splitOn mark s)

theorem Behind.exists_of_ne_nil {tail : List Char} {parts : List (List Char)}
    (h : Behind mark tail parts) (more : parts ≠ []) :
    ∃ s, tail = mark :: s ∧ splitOn mark s = parts := by
  cases h with
  | last => exact absurd rfl more
  | marked s => exact ⟨s, rfl, rfl⟩

/-- The first part of a text holds no mark and stands before its other parts. -/
theorem exists_of_splitOn_eq_cons {s part : List Char} {parts : List (List Char)}
    (h : splitOn mark s = part :: parts) :
    mark ∉ part ∧ ∃ tail, s = part ++ tail ∧ Behind mark tail parts := by
  induction s generalizing part parts with
  | nil =>
      cases h
      exact ⟨List.not_mem_nil, [], rfl, .last⟩
  | cons c s ih =>
      rw [splitOn] at h
      split at h
      · next same =>
        cases h
        obtain rfl : c = mark := by simpa using same
        exact ⟨List.not_mem_nil, c :: s, rfl, .marked s⟩
      · next other =>
        cases found : splitOn mark s with
        | nil => exact absurd found (splitOn_ne_nil mark s)
        | cons first later =>
            rw [found] at h
            cases h
            obtain ⟨unmarked, tail, whole, behind⟩ := ih found
            have apart : mark ≠ c := fun same => other (by simp [same])
            refine ⟨?_, tail, by rw [whole, List.cons_append], behind⟩
            simp [apart, unmarked]

theorem not_mem_of_mem_splitOn {s part : List Char} (mem : part ∈ splitOn mark s) : mark ∉ part := by
  induction s generalizing part with
  | nil =>
      obtain rfl : part = [] := by simpa [splitOn] using mem
      exact List.not_mem_nil
  | cons c s ih =>
      rw [splitOn] at mem
      split at mem
      · obtain rfl | mem := List.mem_cons.mp mem
        · exact List.not_mem_nil
        · exact ih mem
      · next other =>
        have apart : mark ≠ c := fun same => other (by simp [same])
        cases found : splitOn mark s with
        | nil => exact absurd found (splitOn_ne_nil mark s)
        | cons first later =>
            rw [found] at ih mem
            obtain rfl | mem := List.mem_cons.mp mem
            · simpa [apart] using ih List.mem_cons_self
            · exact ih (List.mem_cons_of_mem first mem)

theorem splitOn_replicate_append (mark : Char) (count : Nat) (s : List Char) :
    splitOn mark (List.replicate count mark ++ s) =
      List.replicate count [] ++ splitOn mark s := by
  induction count with
  | zero => rfl
  | succ count ih => simp [List.replicate_succ, splitOn, ih]

theorem splitOn_intercalate {parts : List (List Char)} (nonempty : parts ≠ [])
    (unmarked : ∀ part ∈ parts, mark ∉ part) :
    splitOn mark ([mark].intercalate parts) = parts := by
  induction parts with
  | nil => exact absurd rfl nonempty
  | cons part parts ih =>
      obtain ⟨own, others⟩ := List.forall_mem_cons.mp unmarked
      cases parts with
      | nil => rw [List.intercalate_singleton, splitOn_of_not_mem own]
      | cons next parts =>
          rw [List.intercalate_cons_cons, List.append_assoc, List.singleton_append,
            splitOn_append_cons, splitOn_of_not_mem own, ih (by simp) others]
          rfl

/-- The parts of a text, with a mark behind each, are the text with a mark behind it. -/
theorem flatMap_splitOn (mark : Char) (s : List Char) :
    (splitOn mark s).flatMap (fun part => part ++ [mark]) = s ++ [mark] := by
  induction s with
  | nil => rfl
  | cons c s ih =>
      rw [splitOn]
      split
      · next same =>
        obtain rfl : c = mark := by simpa using same
        rw [List.flatMap_cons, ih]
        rfl
      · cases found : splitOn mark s with
        | nil => exact absurd found (splitOn_ne_nil mark s)
        | cons part parts =>
            rw [found, List.flatMap_cons] at ih
            rw [extendFirst, List.flatMap_cons, List.cons_append, List.cons_append, ih,
              List.cons_append]

/-- A character that is no mark is in one of the parts. -/
theorem exists_mem_splitOn {c : Char} {s : List Char} (h : c ∈ s) (other : c ≠ mark) :
    ∃ part ∈ splitOn mark s, c ∈ part := by
  have joined : c ∈ (splitOn mark s).flatMap fun part => part ++ [mark] := by
    rw [flatMap_splitOn]
    exact List.mem_append_left [mark] h
  obtain ⟨part, mem, inside⟩ := List.mem_flatMap.mp joined
  refine ⟨part, mem, ?_⟩
  simpa [other] using inside

end Pieces

section Words

theorem words_cons_of_isBlank {c : Char} (h : isBlank c = true) (s : List Char) :
    words (c :: s) = words s := by
  cases s with
  | nil => simp [words, h]
  | cons d s => simp [words, h]

/-- A word ends at the first blank. -/
theorem words_append {word s : List Char} (nonempty : word ≠ [])
    (h : ∀ c ∈ word, isBlank c = false) (blank : ∀ c, s.head? = some c → isBlank c = true) :
    words (word ++ s) = word :: words s := by
  induction word with
  | nil => exact absurd rfl nonempty
  | cons c word ih =>
      have hc : isBlank c = false := h c (by simp)
      cases word with
      | nil =>
          cases s with
          | nil => simp [words, hc]
          | cons d s => simp [words, hc, blank d rfl]
      | cons d word =>
          have hd : isBlank d = false := h d (by simp)
          have rest : words (d :: word ++ s) = (d :: word) :: words s :=
            ih (List.cons_ne_nil d word) fun c hc => h c (by simp [hc])
          rw [List.cons_append] at rest
          simp [words, hc, hd, rest, extendFirst]

/-- Words with a blank in front of each are read back, with or without blanks behind them. -/
theorem words_flatMap {parts : List (List Char)}
    (h : ∀ word ∈ parts, word ≠ [] ∧ ∀ c ∈ word, isBlank c = false) :
    words (parts.flatMap (' ' :: ·) ++ [' ']) = parts := by
  induction parts with
  | nil => decide
  | cons word parts ih =>
      have hw := h word (by simp)
      have space : ∀ c, (parts.flatMap (' ' :: ·) ++ [' ']).head? = some c → isBlank c = true := by
        intro c hc
        obtain rfl : ' ' = c := by cases parts <;> simpa using hc
        decide
      have rest := ih fun word hw => h word (by simp [hw])
      rw [List.flatMap_cons, List.cons_append, List.cons_append, List.append_assoc,
        words_cons_of_isBlank (by decide), words_append hw.1 hw.2 space, rest]

end Words

end Runbook.Text

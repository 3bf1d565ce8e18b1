import Mathlib.Data.List.TakeWhile
import Runbook.Proofs.Text.Lines

/-!
# Laws of words and of trimmed texts

A text that has words is cut at its first one: blanks, the word, and a rest that starts with a blank
or is empty. Blanks at the ends of a text neither add nor change words, and what is trimmed off a
text is blank.
-/

namespace Runbook.Text

section Words

/-- Blanks in front of a text hold no words. -/
theorem words_blanks_append {blanks : List Char} (h : allBlank blanks = true) (s : List Char) :
    words (blanks ++ s) = words s := by
  induction blanks with
  | nil => rfl
  | cons c blanks ih =>
      have blank : isBlank c = true ∧ allBlank blanks = true := by simpa [allBlank] using h
      rw [List.cons_append, words_cons_of_isBlank blank.1, ih blank.2]

/-- Blanks behind a text hold no words and end the last one. -/
theorem words_append_blanks (s : List Char) {blanks : List Char} (h : allBlank blanks = true) :
    words (s ++ blanks) = words s := by
  have none : words blanks = [] := by simpa [words] using words_blanks_append h []
  induction s with
  | nil => exact none
  | cons c s ih =>
      cases s with
      | cons d s => simp only [List.cons_append, words] at ih ⊢; rw [ih]
      | nil =>
          cases hc : isBlank c with
          | true => rw [List.cons_append, words_cons_of_isBlank hc, words_cons_of_isBlank hc, ih]
          | false =>
              have single : ∀ d ∈ [c], isBlank d = false := by simpa using hc
              have ends : ∀ d, blanks.head? = some d → isBlank d = true := fun d hd =>
                List.all_eq_true.mp h d (List.mem_of_head? hd)
              rw [words_append (List.cons_ne_nil c []) single ends, none]
              simp [words, hc]

/-- A text is cut where its first blank stands. -/
theorem exists_append_filled (s : List Char) :
    ∃ front rest, s = front ++ rest ∧ (∀ c ∈ front, isBlank c = false) ∧
      ∀ c, rest.head? = some c → isBlank c = true := by
  let filled (c : Char) : Bool := !isBlank c
  refine ⟨s.takeWhile filled, s.dropWhile filled, List.takeWhile_append_dropWhile.symm, ?_, ?_⟩
  · intro c mem
    simpa [filled] using List.mem_takeWhile_imp mem
  · intro c head
    have stopped := List.head?_dropWhile_not filled s
    simpa [head, filled] using stopped

/-- The first word of a text stands behind blanks, and a blank or nothing follows it. -/
theorem exists_of_words_eq_cons {s word : List Char} {others : List (List Char)}
    (h : words s = word :: others) :
    ∃ gap rest, s = gap ++ (word ++ rest) ∧ allBlank gap = true ∧ word ≠ [] ∧
      (∀ c ∈ word, isBlank c = false) ∧ (∀ c, rest.head? = some c → isBlank c = true) ∧
      words rest = others := by
  have blank : allBlank (s.takeWhile isBlank) = true :=
    List.all_eq_true.mpr fun c hc => List.mem_takeWhile_imp hc
  have whole : s.takeWhile isBlank ++ s.dropWhile isBlank = s := List.takeWhile_append_dropWhile
  have same : words (s.dropWhile isBlank) = word :: others := by
    rw [← h, ← words_blanks_append blank, whole]
  have start := List.head?_dropWhile_not isBlank s
  -- Behind the blanks the text is cut where the next blank stands.
  generalize s.dropWhile isBlank = text at whole same start
  obtain ⟨front, rest, rfl, inside, behind⟩ := exists_append_filled text
  have nonempty : front ≠ [] := by
    rintro rfl
    cases rest with
    | nil => cases same
    | cons c rest => simp [behind c rfl] at start
  have cut := words_append nonempty inside behind
  rw [same] at cut
  obtain ⟨rfl, others_eq⟩ := List.cons.inj cut
  exact ⟨s.takeWhile isBlank, rest, whole.symm, blank, nonempty, inside, behind, others_eq.symm⟩

/-- A word is a part of its text. -/
theorem infix_of_mem_words {s word : List Char} (mem : word ∈ words s) : word <:+: s := by
  generalize found : words s = parts at mem
  induction parts generalizing s with
  | nil => cases mem
  | cons first others ih =>
      obtain ⟨gap, rest, rfl, -, -, -, -, behind⟩ := exists_of_words_eq_cons found
      rcases List.mem_cons.mp mem with rfl | later
      · exact ⟨gap, rest, by simp⟩
      · apply (ih behind later).trans
        exact ⟨gap ++ first, [], by simp⟩

/-- A character in front of a text leaves its words as they are, or makes the first one longer. -/
theorem exists_mem_words_cons {s word : List Char} (mem : word ∈ words s) (c : Char) :
    ∃ longer ∈ words (c :: s), word <:+ longer := by
  cases s with
  | nil => cases mem
  | cons d s =>
      rw [words]
      split
      · exact ⟨word, mem, List.suffix_rfl⟩
      · split
        · exact ⟨word, List.mem_cons_of_mem _ mem, List.suffix_rfl⟩
        · cases found : words (d :: s) with
          | nil =>
              rw [found] at mem
              cases mem
          | cons first others =>
              rw [found] at mem
              rcases List.mem_cons.mp mem with rfl | later
              · exact ⟨c :: word, List.mem_cons_self, List.suffix_cons c word⟩
              · exact ⟨word, List.mem_cons_of_mem _ later, List.suffix_rfl⟩

section Mark

variable {mark : List Char} (nonempty : mark ≠ []) (filled : ∀ c ∈ mark, isBlank c = false)
include nonempty filled

/-- What a text without blanks starts, its first word starts. -/
theorem exists_mem_words_of_prefix {s : List Char} (h : mark <+: s) :
    ∃ word ∈ words s, mark <+: word := by
  obtain ⟨t, rfl⟩ := h
  obtain ⟨front, rest, rfl, inside, behind⟩ := exists_append_filled t
  have unbroken : ∀ c ∈ mark ++ front, isBlank c = false := by
    intro c mem
    rcases List.mem_append.mp mem with own | later
    · exact filled c own
    · exact inside c later
  have cut := words_append (by simp [nonempty]) unbroken behind
  rw [List.append_assoc] at cut
  rw [cut]
  exact ⟨mark ++ front, List.mem_cons_self, List.prefix_append mark front⟩

/-- A mark without blanks stands in a text exactly if it stands in one of the words. -/
theorem infix_iff_exists_mem_words {s : List Char} :
    mark <:+: s ↔ ∃ word ∈ words s, mark <:+: word := by
  constructor
  · intro h
    induction s with
    | nil => exact absurd (List.infix_nil.mp h) nonempty
    | cons c s ih =>
        rcases List.infix_cons_iff.mp h with starts | later
        · obtain ⟨word, mem, first⟩ := exists_mem_words_of_prefix nonempty filled starts
          exact ⟨word, mem, first.isInfix⟩
        · obtain ⟨word, mem, inside⟩ := ih later
          obtain ⟨longer, mem', ends⟩ := exists_mem_words_cons mem c
          exact ⟨longer, mem', inside.trans ends.isInfix⟩
  · rintro ⟨word, mem, inside⟩
    exact inside.trans (infix_of_mem_words mem)

end Mark

end Words

section Trimmed

theorem trim_blanks_append {blanks : List Char} (h : allBlank blanks = true) (s : List Char) :
    trim (blanks ++ s) = trim s := by
  rw [trim, trimStart, List.dropWhile_append_of_pos (List.all_eq_true.mp h)]
  rfl

/-- A text is what is trimmed of it with blanks at both ends. -/
theorem exists_append_trim (s : List Char) :
    ∃ lead trail, s = lead ++ (trim s ++ trail) ∧ allBlank lead = true ∧ allBlank trail = true := by
  have back : (trimStart s).reverse.takeWhile isBlank ++ (trimStart s).reverse.dropWhile isBlank =
      (trimStart s).reverse := List.takeWhile_append_dropWhile
  refine ⟨s.takeWhile isBlank, ((trimStart s).reverse.takeWhile isBlank).reverse, ?_, ?_, ?_⟩
  · have start : trimStart s = trim s ++ ((trimStart s).reverse.takeWhile isBlank).reverse := by
      rw [trim, trimEnd, ← List.reverse_append, back, List.reverse_reverse]
    rw [← start]
    exact List.takeWhile_append_dropWhile.symm
  · exact List.all_eq_true.mpr fun c hc => List.mem_takeWhile_imp hc
  · rw [allBlank, List.all_reverse]
    exact List.all_eq_true.mpr fun c hc => List.mem_takeWhile_imp hc

end Trimmed

end Runbook.Text

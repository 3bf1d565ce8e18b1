import Runbook.Proofs.Document.Extent
import Runbook.Proofs.Text.Lines

/-!
# Line numbers and line feeds

The lines of a document end at every line break, and a line feed is only one of the line breaks. In
a document without carriage returns the number of a line is one more than the number of line breaks
before it. So the places of a directive count the line feeds before its first line and before its
last one, as long as no other line break stands there, and else they count too many.
-/

namespace Runbook

namespace Text

/-- Whether a character ends a line and is no line feed. -/
def isOtherBreak (c : Char) : Bool := isLineBreak c && c != '\n'

theorem countP_isLineBreak (s : List Char) :
    s.countP isLineBreak = s.count '\n' + s.countP isOtherBreak := by
  induction s with
  | nil => rfl
  | cons c s ih =>
      by_cases feed : c = '\n'
      · subst feed
        have breaks : isLineBreak '\n' = true := by decide
        have own : isOtherBreak '\n' = false := by decide
        simp only [List.countP_cons, List.count_cons, breaks, own, ih]
        simp
        omega
      · simp only [List.countP_cons, List.count_cons, ih, isOtherBreak]
        simp [feed]
        omega

/-- Every line in front of another one ends in the only line break that it holds. -/
theorem countP_flatten_of_lines {s : List Char} (plain : '\r' ∉ s) {front later : List (List Char)}
    {line : List Char} (h : lines s = front ++ line :: later) :
    front.flatten.countP isLineBreak = front.length := by
  induction s generalizing front with
  | nil => simp [lines] at h
  | cons c s ih =>
      obtain ⟨returned, rest⟩ := not_or.mp (List.mem_cons.not.mp plain)
      cases front with
      | nil => rfl
      | cons first front =>
          rw [lines, endsLine_of_ne (Ne.symm returned)] at h
          split at h
          · next ends =>
            obtain ⟨rfl, behind⟩ : [c] = first ∧ lines s = front ++ line :: later := by
              simpa using h
            have one : [c].countP isLineBreak = 1 := by simp [ends]
            rw [List.flatten_cons, List.countP_append, one, ih rest behind, List.length_cons,
              Nat.add_comm]
          · next inside =>
            cases found : lines s with
            | nil => simp [found, extendFirst] at h
            | cons next others =>
                rw [found, extendFirst] at h
                obtain ⟨rfl, rfl⟩ : c :: next = first ∧ others = front ++ line :: later := by
                  simpa using h
                have count : (next :: front).flatten.countP isLineBreak = (next :: front).length :=
                  ih rest found
                simpa [inside] using count

theorem line?_length {lines : List (List Char)} (filled : lines ≠ []) :
    line? lines lines.length = lines.getLast? := by
  cases lines with
  | nil => exact absurd rfl filled
  | cons line lines =>
      rw [List.getLast?_eq_getElem?]
      rfl

section Line

variable {s line : List Char} {n : Nat}

/-- The text in front of the line with a number. -/
def before (s : List Char) (n : Nat) : List Char := ((lines s).take (n - 1)).flatten

/-- A line stands behind the lines with smaller numbers. -/
theorem exists_front_of_line? (h : line? (lines s) n = some line) :
    ∃ front later, lines s = front ++ line :: later ∧ n = front.length + 1 ∧
      before s n = front.flatten := by
  cases n with
  | zero => cases h
  | succ n =>
      obtain ⟨short, rfl⟩ := List.getElem?_eq_some_iff.mp h
      have length : ((lines s).take n).length = n := List.length_take_of_le (Nat.le_of_lt short)
      refine ⟨(lines s).take n, (lines s).drop (n + 1), ?_, by rw [length], rfl⟩
      rw [← List.drop_eq_getElem_cons short, List.take_append_drop]

theorem before_append (h : line? (lines s) n = some line) : before s n ++ line <+: s := by
  obtain ⟨front, later, cut, -, text⟩ := exists_front_of_line? h
  refine ⟨later.flatten, ?_⟩
  calc
    before s n ++ line ++ later.flatten
        = (front ++ line :: later).flatten := by simp [text]
    _ = s := by rw [← cut, flatten_lines]

/-- The number of a line tells the line breaks before it. -/
theorem count_before (plain : '\r' ∉ s) (h : line? (lines s) n = some line) :
    (before s n).count '\n' + (before s n).countP isOtherBreak + 1 = n := by
  obtain ⟨front, later, cut, number, text⟩ := exists_front_of_line? h
  calc
    (before s n).count '\n' + (before s n).countP isOtherBreak + 1
        = (before s n).countP isLineBreak + 1 := by rw [countP_isLineBreak]
    _ = front.length + 1 := by rw [text, countP_flatten_of_lines plain cut]
    _ = n := number.symm

/-- It tells the line feeds before it exactly if no other line break stands there. -/
theorem count_before_eq_iff (plain : '\r' ∉ s) (h : line? (lines s) n = some line) :
    (before s n).count '\n' + 1 = n ↔ ∀ c ∈ before s n, isOtherBreak c = false := by
  have total := count_before plain h
  have none : (before s n).countP isOtherBreak = 0 ↔
      ∀ c ∈ before s n, isOtherBreak c = false := by
    simp [List.countP_eq_zero]
  rw [← none]
  omega

end Line

end Text

namespace Directive

/-- A directive covers lines of the document from a first to a last one. -/
theorem Exact.exists_lines {source : String} {lines : List (List Char)} {directive : Directive}
    (h : Exact source lines directive) :
    ∃ s e : Nat, directive.span = ⟨s, e⟩ ∧
      ∀ n, n = s ∨ n = e → ∃ line, Text.line? lines n = some line := by
  cases h with
  | @blockless s line _ marked =>
      refine ⟨s, s, rfl, ?_⟩
      rintro n (rfl | rfl) <;> exact ⟨line, marked⟩
  | @closed _ s e _ opening closing _ _ _ heading _ ended =>
      refine ⟨s, e, rfl, ?_⟩
      rintro n (rfl | rfl)
      · exact ⟨opening, heading.opened⟩
      · exact ⟨closing, ended⟩
  | @unclosed _ s e _ opening _ _ _ heading last =>
      refine ⟨s, e, rfl, ?_⟩
      rintro n (rfl | rfl)
      · exact ⟨opening, heading.opened⟩
      · have filled : lines ≠ [] := by
          rintro rfl
          cases s <;> cases heading.opened
        refine ⟨lines.getLast filled, ?_⟩
        rw [last, Text.line?_length filled, List.getLast?_eq_some_getLast]

/-- The numbers of a directive count the line breaks before its first and its last line. They count
the line feeds there exactly if no other line break stands before these lines. -/
theorem count_before_of_mem_ofText {text : String} (plain : '\r' ∉ text.toList) (source : String) :
    let s := text.toList
    ∀ directive ∈ ofText text source, ∃ first last : Nat, directive.span = ⟨first, last⟩ ∧
      Exact source (Text.lines s) directive ∧
        ∀ n, n = first ∨ n = last →
          ∃ line, Text.line? (Text.lines s) n = some line ∧ Text.before s n ++ line <+: s ∧
            (Text.before s n).count '\n' + (Text.before s n).countP Text.isOtherBreak + 1 = n ∧
            ((Text.before s n).count '\n' + 1 = n ↔
              ∀ c ∈ Text.before s n, Text.isOtherBreak c = false) := by
  intro s directive mem
  have covers := exact_of_mem_ofText mem
  obtain ⟨first, last, span, found⟩ := covers.exists_lines
  refine ⟨first, last, span, covers, ?_⟩
  intro n ends
  obtain ⟨line, place⟩ := found n ends
  refine ⟨line, place, Text.before_append place, ?_, ?_⟩
  · exact Text.count_before plain place
  · exact Text.count_before_eq_iff plain place

/-- A document with a line separator in its block. -/
def separated : String := "\u00A0\n<!-- deploy-doc run-tests -->\n```\nmake\u2028test\n```\n"

/-- The block opens behind two line feeds, as its first number tells. It closes behind four line
feeds, and its last number counts the separator too. -/
theorem count_before_separated :
    (ofText separated "d.md").map Directive.span = [⟨3, 6⟩] ∧
      (Text.before separated.toList 3).count '\n' + 1 = 3 ∧
      (Text.before separated.toList 6).count '\n' + 1 ≠ 6 := by
  have parsed : ofText separated "d.md" =
      [⟨"run-tests", [], "d.md", ⟨3, 6⟩, "make\u2028test\n"⟩] := by decide +kernel
  have plain : '\r' ∉ separated.toList := by decide
  obtain ⟨first, last, span, -, numbered⟩ :=
    count_before_of_mem_ofText plain "d.md" _ (parsed ▸ List.mem_cons_self)
  obtain ⟨rfl, rfl⟩ : 3 = first ∧ 6 = last := by
    simp only [Span.mk.injEq] at span
    omega
  obtain ⟨-, -, -, -, opens⟩ := numbered 3 (.inl rfl)
  obtain ⟨-, -, -, -, closes⟩ := numbered 6 (.inr rfl)
  have clear : (Text.before separated.toList 3).all (!Text.isOtherBreak ·) = true := by
    decide +kernel
  have met : '\u2028' ∈ Text.before separated.toList 6 := by decide +kernel
  refine ⟨by rw [parsed]; rfl, opens.mpr (by simpa using clear), ?_⟩
  intro counted
  have other := closes.mp counted _ met
  revert other
  decide

/-- A document with a form feed before its block. -/
def formFed : String := "a\u000Cb\n<!-- deploy-doc run-tests -->\n```\nmake\n```\n"

/-- The block opens on the third line as line feeds count, and its place starts on the fourth. -/
theorem span_formFed :
    ∃ directive ∈ ofText formFed "d.md", directive.span = ⟨4, 6⟩ ∧
      ∃ front back, formFed.toList = front ++ "```\n".toList ++ back ∧
        front = Text.before formFed.toList 4 ∧ front.count '\n' = 2 := by
  have parsed : ofText formFed "d.md" = [⟨"run-tests", [], "d.md", ⟨4, 6⟩, "make\n"⟩] := by
    decide +kernel
  refine ⟨_, parsed ▸ List.mem_cons_self, rfl, Text.before formFed.toList 4,
    "make\n```\n".toList, ?_, rfl, ?_⟩
  · decide +kernel
  · decide +kernel

end Directive

end Runbook

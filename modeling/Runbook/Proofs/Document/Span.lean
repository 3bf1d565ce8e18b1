import Runbook.Proofs.Document.Block

/-!
# Places of directives

The directives of a document lie in its lines one behind the other, each of them ending before the
next one starts. A place is written with the number of its first line in decimal, so that no two
directives of a document have the same place.
-/

namespace Runbook

section Decimal

theorem decimalDigits_injective {m n : Nat} (h : decimalDigits m = decimalDigits n) : m = n := by
  have read (k : Nat) : Nat.ofDigitChars 10 (decimalDigits k) 0 = k := Nat.ofDigitChars_ten_toDigits
  rw [← read m, h, read]

theorem minus_not_mem_decimalDigits (n : Nat) : '-' ∉ decimalDigits n := by
  intro mem
  have digit : '-'.isDigit = true := Nat.isDigit_of_mem_toDigits (by decide) (by decide) mem
  exact absurd digit (by decide)

/-- What stands before the first place of a mark is read back. -/
theorem Text.eq_of_append_cons_eq {mark : Char} {s s' t t' : List Char} (h : mark ∉ s)
    (h' : mark ∉ s') (joined : s ++ mark :: t = s' ++ mark :: t') : s = s' := by
  have front : ∀ s t : List Char, mark ∉ s → (s ++ mark :: t).takeWhile (· ≠ mark) = s := by
    intro s t hs
    have before : ∀ c ∈ s, decide (c ≠ mark) = true := by
      intro c hc
      simpa using ne_of_mem_of_not_mem hc hs
    rw [List.takeWhile_append_of_pos before]
    simp
  rw [← front s t h, joined, front s' t' h']

end Decimal

/-- The place of a span tells the line where it starts. -/
theorem Span.first_eq_of_locate_eq {source : String} {a b : Span} (ha : 0 ≤ a.first)
    (hb : 0 ≤ b.first) (h : a.locate source = b.locate source) : a.first = b.first := by
  obtain ⟨m, hm⟩ := Int.eq_ofNat_of_zero_le ha
  obtain ⟨n, hn⟩ := Int.eq_ofNat_of_zero_le hb
  have written : decimalDigits m ++ '-' :: (decimalText a.last).toList =
      decimalDigits n ++ '-' :: (decimalText b.last).toList := by
    have lists := congrArg String.toList h
    simpa [locate, hm, hn, decimalText] using lists
  have digits := Text.eq_of_append_cons_eq (minus_not_mem_decimalDigits m)
    (minus_not_mem_decimalDigits n) written
  rw [hm, hn, decimalDigits_injective digits]

namespace Directive

/-- A directive of a document lies in the lines from `n` on and before `m`. -/
structure Within (source : String) (n m : Nat) (directive : Directive) : Prop where
  source_eq : directive.source = source
  le_first : (n : Int) ≤ directive.span.first
  first_le_last : directive.span.first ≤ directive.span.last
  last_lt : directive.span.last < m

theorem Within.mono {source : String} {n n' m m' : Nat} {directive : Directive}
    (h : Within source n m directive) (hn : n' ≤ n) (hm : m ≤ m') :
    Within source n' m' directive := by
  obtain ⟨source_eq, le_first, first_le_last, last_lt⟩ := h
  exact ⟨source_eq, by omega, first_le_last, by omega⟩

theorem lines_ne_nil_of_mem_scan {source : String} {n : Nat} {lines : List (List Char)}
    {directive : Directive} (h : directive ∈ scan source n lines) : lines ≠ [] := by
  rintro rfl
  simp [scan] at h

/-- The directives found in lines lie in these lines. -/
theorem within_scan (source : String) (n : Nat) (lines : List (List Char)) :
    ∀ directive ∈ scan source n lines, Within source n (n + lines.length) directive := by
  fun_induction scan source n lines with
  | case1 n => simp
  | case2 n line rest fence ho length ih =>
      intro directive mem
      have some := List.length_pos_iff.mpr (lines_ne_nil_of_mem_scan mem)
      rw [List.length_drop] at some
      refine (ih directive mem).mono (by omega) ?_
      rw [List.length_drop, List.length_cons]
      omega
  | case3 n line rest ho hm ih =>
      intro directive mem
      refine (ih directive mem).mono (by omega) ?_
      rw [List.length_cons]
      omega
  | case4 n line rest ho marker hm ha ih =>
      rw [List.forall_mem_cons]
      refine ⟨⟨rfl, Int.le_refl _, Int.le_refl _, ?_⟩, fun directive mem => ?_⟩
      · simp only [blockless, Span.line, List.length_cons]
        omega
      · refine (ih directive mem).mono (by omega) ?_
        rw [List.length_cons]
        omega
  | case5 n line rest ho marker hm blanks fence inner ha first body closing shorter ih =>
      have ahead := length_eq_of_fenceAhead? ha
      have whole : body.length + (fence.afterBody inner).length = inner.length :=
        fence.length_body_add inner
      have closed : closing ≤ (fence.afterBody inner).length := by
        cases behind : fence.afterBody inner with
        | nil => simp [closing, behind]
        | cons line later => simp [closing, behind]
      rw [List.forall_mem_cons]
      refine ⟨⟨rfl, ?_, ?_, ?_⟩, fun directive mem => ?_⟩
      · simp only [block, first]
        omega
      · simp only [block]
        omega
      · simp only [block, List.length_cons]
        omega
      · have some := List.length_pos_iff.mpr (lines_ne_nil_of_mem_scan mem)
        rw [List.length_drop] at some
        refine (ih directive mem).mono (by omega) ?_
        rw [List.length_drop, List.length_cons]
        omega

/-- Every directive ends before the later ones start. -/
theorem pairwise_scan (source : String) (n : Nat) (lines : List (List Char)) :
    (scan source n lines).Pairwise fun a b => a.span.last < b.span.first := by
  fun_induction scan source n lines with
  | case1 n => exact List.Pairwise.nil
  | case2 n line rest fence ho length ih => exact ih
  | case3 n line rest ho hm ih => exact ih
  | case4 n line rest ho marker hm ha ih =>
      refine List.Pairwise.cons (fun later mem => ?_) ih
      have below := (within_scan _ _ _ later mem).le_first
      simp only [blockless, Span.line]
      omega
  | case5 n line rest ho marker hm blanks fence inner ha first body closing shorter ih =>
      refine List.Pairwise.cons (fun later mem => ?_) ih
      have below := (within_scan _ _ _ later mem).le_first
      have single : closing ≤ 1 := by
        simp only [closing]
        split <;> omega
      simp only [block]
      omega

/-- The place of a directive, as it is shown to readers. -/
def place (directive : Directive) : String := directive.span.locate directive.source

/-- No two directives of a document have the same place. -/
theorem nodup_places (text source : String) : ((ofText text source).map place).Nodup := by
  refine List.pairwise_map.mpr ((pairwise_scan source 1 _).imp_of_mem fun {a b} ha hb apart => ?_)
  obtain ⟨hsa, hfa, hla, -⟩ := within_scan source 1 _ a ha
  obtain ⟨hsb, hfb, -, -⟩ := within_scan source 1 _ b hb
  intro same
  rw [place, place, hsa, hsb] at same
  have starts := Span.first_eq_of_locate_eq (by omega) (by omega) same
  omega

end Directive

end Runbook

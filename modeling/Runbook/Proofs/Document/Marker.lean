import Runbook.Document.Marker
import Runbook.Proofs.Text.Pattern
import Runbook.Proofs.Text.Words

/-!
# The pattern of markers

Markers can be told by a pattern whose parts overlap: a kind may hold the mark that ends a comment,
and what follows a kind may end with blanks that could as well stand behind it. Yet all divisions of
a line among the parts have the same kind and the same words behind it: the words of the comment.
-/

namespace Runbook.Marker

open Text (Pattern)

/-- The mark that starts a comment. -/
def startMark : List Char := ['<', '!', '-', '-']

/-- The mark that ends a comment. -/
def endMark : List Char := ['-', '-', '>']

/-- A line is a comment around the words of a marker. -/
def Spells (line : List Char) (marker : Marker) : Prop :=
  ∃ body kind params, Text.trim line = startMark ++ body ++ endMark ∧
    Text.words body = token :: kind :: params ∧
    marker = ⟨String.ofList kind, params.map String.ofList⟩

section Grammar

theorem commentBody?_eq_some_iff {s body : List Char} :
    commentBody? s = some body ↔ s = startMark ++ body ++ endMark := by
  constructor
  · intro h
    unfold commentBody? at h
    split at h
    · next rest =>
      split at h
      · next back same =>
        cases h
        have whole : rest = back.reverse ++ endMark := by
          rw [← List.reverse_reverse rest, same]
          simp [endMark]
        rw [whole, List.append_assoc]
        rfl
      · cases h
    · cases h
  · rintro rfl
    simp [commentBody?, startMark, endMark]

/-- A line is read as a marker if it spells it, and only then. -/
theorem read?_eq_some_iff {line : List Char} {marker : Marker} :
    read? line = some marker ↔ Spells line marker := by
  constructor
  · intro h
    unfold read? at h
    split at h
    · cases h
    · next body comment =>
      split at h
      · next first kind params words =>
        split at h
        · next same =>
          cases h
          exact ⟨body, kind, params, commentBody?_eq_some_iff.mp comment, same ▸ words, rfl⟩
        · cases h
      · cases h
  · rintro ⟨body, kind, params, comment, words, rfl⟩
    simp [read?, commentBody?_eq_some_iff.mpr comment, words]

end Grammar

/-- The kind, which is as short as it can be. -/
def kindPart : Pattern :=
  .group (.sequence [.single (!Text.isBlank ·), .run false (!Text.isBlank ·)])

/-- What stands behind the kind: nothing, or a blank and anything up to the end of the line, which
is as short as it can be. -/
def paramsPart : Pattern :=
  .group (.optional (.sequence [.single Text.isBlank, .run false (· ≠ '\n')]))

/-- The pattern of a line that holds a marker. -/
def pattern : Pattern :=
  .sequence [.run true Text.isBlank, .literal startMark, .run true Text.isBlank, .literal token,
    .single Text.isBlank, .run true Text.isBlank, kindPart, paramsPart, .run true Text.isBlank,
    .literal endMark, .run true Text.isBlank, .finish]

/-- The marker whose kind and parameters the groups of the pattern keep. -/
def ofGroups? : List (List Char) → Option Marker
  | [kind, args] => some ⟨String.ofList kind, (Text.words args).map String.ofList⟩
  | _ => none

/-- The marker that the first way gives in which the pattern fits a line. -/
def matched? (line : List Char) : Option Marker :=
  (pattern.ways line).head?.bind fun way => ofGroups? way.groups

/-- A division of a text among the parts of the pattern. -/
structure Division where
  lead : List Char
  gap : List Char
  space : List Char
  kind : List Char
  args : List Char
  close : List Char
  trail : List Char
  blank_lead : ∀ c ∈ lead, Text.isBlank c = true
  blank_gap : ∀ c ∈ gap, Text.isBlank c = true
  blank_space : ∀ c ∈ space, Text.isBlank c = true
  blank_close : ∀ c ∈ close, Text.isBlank c = true
  blank_trail : ∀ c ∈ trail, Text.isBlank c = true
  space_ne_nil : space ≠ []
  kind_ne_nil : kind ≠ []
  filled_kind : ∀ c ∈ kind, Text.isBlank c = false
  head_args : ∀ c, args.head? = some c → Text.isBlank c = true
  inline_args : '\n' ∉ args.tail

namespace Division

/-- What stands between the marks of the comment. -/
def body (d : Division) : List Char :=
  d.gap ++ (token ++ (d.space ++ (d.kind ++ (d.args ++ d.close))))

/-- The text that is divided. -/
def text (d : Division) : List Char :=
  d.lead ++ (startMark ++ (d.body ++ (endMark ++ d.trail)))

/-- The marker of a division. -/
def marker (d : Division) : Marker :=
  ⟨String.ofList d.kind, (Text.words d.args).map String.ofList⟩

/-- The words between the marks are the token, the kind, and the words behind it. -/
theorem words_body (d : Division) : Text.words d.body = token :: d.kind :: Text.words d.args := by
  have token_ne_nil : token ≠ [] := by decide
  have filled_token : ∀ c ∈ token, Text.isBlank c = false := by
    have filled : token.all (!Text.isBlank ·) = true := by decide
    simpa using filled
  have head_space (s : List Char) (c : Char) (head : (d.space ++ s).head? = some c) :
      Text.isBlank c = true := by
    cases h : d.space with
    | nil => exact absurd h d.space_ne_nil
    | cons e space =>
        obtain rfl : e = c := by simpa [h] using head
        exact d.blank_space e (by simp [h])
  have head_close (c : Char) (head : (d.args ++ d.close).head? = some c) :
      Text.isBlank c = true := by
    cases h : d.args with
    | nil =>
        rw [h, List.nil_append] at head
        exact d.blank_close c (List.mem_of_head? head)
    | cons e args => exact d.head_args c (by simpa [h] using head)
  calc
    Text.words d.body
        = Text.words (token ++ (d.space ++ (d.kind ++ (d.args ++ d.close)))) :=
          Text.words_blanks_append (List.all_eq_true.mpr d.blank_gap) _
    _ = token :: Text.words (d.space ++ (d.kind ++ (d.args ++ d.close))) :=
          Text.words_append token_ne_nil filled_token (head_space _)
    _ = token :: Text.words (d.kind ++ (d.args ++ d.close)) := by
          rw [Text.words_blanks_append (List.all_eq_true.mpr d.blank_space)]
    _ = token :: d.kind :: Text.words (d.args ++ d.close) := by
          rw [Text.words_append d.kind_ne_nil d.filled_kind head_close]
    _ = token :: d.kind :: Text.words d.args := by
          rw [Text.words_append_blanks _ (List.all_eq_true.mpr d.blank_close)]

/-- Blanks behind a divided text do not change what it spells. -/
theorem spells (d : Division) {rest : List Char} (blank : Text.allBlank rest = true) :
    Spells (d.text ++ rest) d.marker := by
  refine ⟨d.body, d.kind, Text.words d.args, ?_, d.words_body, rfl⟩
  have behind : Text.allBlank (d.trail ++ rest) = true := by
    rw [Text.allBlank, List.all_append, Bool.and_eq_true]
    exact ⟨List.all_eq_true.mpr d.blank_trail, blank⟩
  have first : ∀ c, (startMark ++ d.body ++ endMark).head? = some c → Text.isBlank c = false := by
    intro c head
    obtain rfl : '<' = c := by simpa [startMark] using head
    rfl
  have last : ∀ c, (startMark ++ d.body ++ endMark).getLast? = some c →
      Text.isBlank c = false := by
    intro c last
    obtain rfl : '>' = c := by simpa [endMark] using last
    rfl
  calc
    Text.trim (d.text ++ rest)
        = Text.trim (d.lead ++ ((startMark ++ d.body ++ endMark) ++ (d.trail ++ rest))) := by
          simp [text]
    _ = Text.trim ((startMark ++ d.body ++ endMark) ++ (d.trail ++ rest)) :=
          Text.trim_blanks_append (List.all_eq_true.mpr d.blank_lead) _
    _ = startMark ++ d.body ++ endMark :=
          Text.trim_append behind first last (by simp [startMark])

end Division

section Parts

variable {covered rest : List Char} {groups : List (List Char)}

theorem fits_kindPart_iff :
    kindPart.Fits covered groups rest ↔
      (covered ≠ [] ∧ ∀ c ∈ covered, Text.isBlank c = false) ∧ groups = [covered] := by
  rw [kindPart, Pattern.Fits]
  simp only [Pattern.fits_single_cons_iff, Pattern.fits_run_cons_iff,
    Pattern.fits_sequence_nil_iff, Bool.not_eq_true']
  constructor
  · rintro ⟨_, rfl, c, _, rfl, first, s, _, rfl, others, rfl, rfl⟩
    exact ⟨⟨by simp, by simpa [first] using others⟩, rfl⟩
  · rintro ⟨⟨nonempty, filled⟩, rfl⟩
    cases covered with
    | nil => exact absurd rfl nonempty
    | cons c s =>
        obtain ⟨first, others⟩ := List.forall_mem_cons.mp filled
        exact ⟨[], rfl, c, s, rfl, first, s, [], by simp, others, rfl, rfl⟩

theorem fits_paramsPart_iff :
    paramsPart.Fits covered groups rest ↔
      ((∀ c, covered.head? = some c → Text.isBlank c = true) ∧ '\n' ∉ covered.tail) ∧
        groups = [covered] := by
  rw [paramsPart, Pattern.Fits]
  simp only [Pattern.Fits, Pattern.fits_single_cons_iff, Pattern.fits_run_cons_iff,
    Pattern.fits_sequence_nil_iff]
  constructor
  · rintro ⟨_, rfl, ⟨c, _, rfl, blank, s, _, rfl, inline, rfl, rfl⟩ | ⟨rfl, rfl⟩⟩
    · refine ⟨⟨by simpa using blank, ?_⟩, rfl⟩
      intro mem
      simpa using inline '\n' (by simpa using mem)
    · simp
  · rintro ⟨⟨blank, inline⟩, rfl⟩
    refine ⟨[], rfl, ?_⟩
    cases covered with
    | nil => exact .inr ⟨rfl, rfl⟩
    | cons c s =>
        refine .inl ⟨c, s, rfl, blank c rfl, s, [], by simp, ?_, rfl, rfl⟩
        intro d mem
        exact decide_eq_true fun same => inline (same ▸ mem)

/-- The pattern fits what is divided among its parts, and keeps the kind and what stands behind. -/
theorem fits_pattern_iff :
    pattern.Fits covered groups rest ↔
      (rest = [] ∨ rest = ['\n']) ∧
        ∃ d : Division, covered = d.text ∧ groups = [d.kind, d.args] := by
  simp only [pattern, Pattern.fits_run_cons_iff, Pattern.fits_literal_cons_iff,
    Pattern.fits_single_cons_iff, Pattern.fits_kept_cons_iff fits_kindPart_iff,
    Pattern.fits_kept_cons_iff fits_paramsPart_iff, Pattern.fits_sequence_finish_iff]
  constructor
  · rintro ⟨lead, _, rfl, blank_lead, _, rfl, gap, _, rfl, blank_gap, _, rfl, c, _, rfl, blank_c,
      space, _, rfl, blank_space, kind, _, _, rfl, rfl, ⟨kind_ne_nil, filled⟩,
      args, _, _, rfl, rfl, ⟨head_args, inline⟩, close, _, rfl, blank_close, _, rfl,
      trail, _, rfl, blank_trail, last, rfl, rfl⟩
    have blank : ∀ d ∈ c :: space, Text.isBlank d = true :=
      List.forall_mem_cons.mpr ⟨blank_c, blank_space⟩
    let d : Division := ⟨lead, gap, c :: space, kind, args, close, trail, blank_lead, blank_gap,
      blank, blank_close, blank_trail, by simp, kind_ne_nil, filled, head_args, inline⟩
    refine ⟨last, d, ?_, rfl⟩
    simp [d, Division.text, Division.body]
  · rintro ⟨last, d, rfl, rfl⟩
    obtain ⟨c, space, apart⟩ := List.exists_cons_of_ne_nil d.space_ne_nil
    obtain ⟨blank_c, blank_space⟩ := List.forall_mem_cons.mp (apart ▸ d.blank_space)
    refine ⟨d.lead, _, rfl, d.blank_lead, _, rfl, d.gap, _, ?_, d.blank_gap, _, rfl, c, _, rfl,
      blank_c, space, _, rfl, blank_space, d.kind, _, [d.args], rfl, rfl,
      ⟨d.kind_ne_nil, d.filled_kind⟩, d.args, _, [], rfl, rfl, ⟨d.head_args, d.inline_args⟩,
      d.close, _, rfl, d.blank_close, _, rfl, d.trail, [], rfl, d.blank_trail, last, rfl, rfl⟩
    simp [Division.body, apart]

/-- Every way in which the pattern fits a line gives the marker that is read there. -/
theorem ofGroups?_of_mem_ways {line : List Char} {way : Text.Way}
    (mem : way ∈ pattern.ways line) :
    ∃ marker, ofGroups? way.groups = some marker ∧ read? line = some marker := by
  obtain ⟨whole, fits⟩ := Pattern.mem_ways_iff.mp mem
  obtain ⟨last, d, covered, groups⟩ := fits_pattern_iff.mp fits
  refine ⟨d.marker, ?_, ?_⟩
  · rw [groups]
    rfl
  · rw [read?_eq_some_iff, whole, covered]
    apply d.spells
    obtain rest | rest := last <;> rw [rest] <;> rfl

end Parts

section Line

variable {line : List Char} (one : (Text.lines line).length ≤ 1)
include one

/-- A line that spells a marker can be divided, and any blanks behind the kind be left to what
follows it. -/
theorem exists_division {marker : Marker} (h : Spells line marker) :
    ∃ d : Division, line = d.text ∧ d.marker = marker := by
  obtain ⟨body, kind, params, trimmed, words, rfl⟩ := h
  obtain ⟨lead, trail, whole, blank_lead, blank_trail⟩ := Text.exists_append_trim line
  obtain ⟨gap, behind, body_eq, blank_gap, -, -, head_behind, words_behind⟩ :=
    Text.exists_of_words_eq_cons words
  obtain ⟨space, args, behind_eq, blank_space, kind_ne_nil, filled, head_args, words_args⟩ :=
    Text.exists_of_words_eq_cons words_behind
  have parts : line = lead ++ (startMark ++ ((gap ++ (token ++ (space ++ (kind ++ args)))) ++
      (endMark ++ trail))) := by
    rw [whole, trimmed, body_eq, behind_eq]
    simp
  have space_ne_nil : space ≠ [] := by
    rintro rfl
    obtain ⟨c, s, rfl⟩ := List.exists_cons_of_ne_nil kind_ne_nil
    have blank := head_behind c (by simp [behind_eq])
    simp [filled c List.mem_cons_self] at blank
  have inline : '\n' ∉ args := by
    intro mem
    obtain ⟨s, t, rfl⟩ := List.append_of_mem mem
    have cut : line = (lead ++ startMark ++ gap ++ token ++ space ++ kind ++ s) ++
        '\n' :: (t ++ endMark ++ trail) := by
      rw [parts]
      simp
    have nothing := Text.eq_nil_of_length_lines (cut ▸ one)
    simp [endMark] at nothing
  let d : Division := ⟨lead, gap, space, kind, args, [], trail, List.all_eq_true.mp blank_lead,
    List.all_eq_true.mp blank_gap, List.all_eq_true.mp blank_space, by simp,
    List.all_eq_true.mp blank_trail, space_ne_nil, kind_ne_nil, filled, head_args,
    fun mem => inline (List.mem_of_mem_tail mem)⟩
  refine ⟨d, ?_, ?_⟩
  · rw [parts]
    simp [d, Division.text, Division.body]
  · simp only [d, Division.marker, words_args]

theorem ways_pattern_ne_nil {marker : Marker} (h : Spells line marker) :
    pattern.ways line ≠ [] := by
  obtain ⟨d, whole, -⟩ := exists_division one h
  apply List.ne_nil_of_mem (a := ⟨d.text, [d.kind, d.args], []⟩)
  apply Pattern.mem_ways_iff.mpr
  exact ⟨by rw [whole, List.append_nil], fits_pattern_iff.mpr ⟨.inl rfl, d, rfl, rfl⟩⟩

/-- The first way in which the pattern fits a line gives the marker that is read there. -/
theorem matched?_eq_read? : matched? line = read? line := by
  unfold matched?
  cases h : pattern.ways line with
  | nil =>
      cases read : read? line with
      | none => rfl
      | some marker => exact absurd h (ways_pattern_ne_nil one (read?_eq_some_iff.mp read))
  | cons way others =>
      obtain ⟨marker, kept, read⟩ := ofGroups?_of_mem_ways (h ▸ List.mem_cons_self)
      rw [read]
      exact kept

/-- On a line the pattern finds the marker that the line spells, and it finds none where the line
spells none. Every way in which it fits gives the same marker, whatever its runs prefer. -/
theorem matched?_eq_some_iff_spells :
    (∀ marker, matched? line = some marker ↔ Spells line marker) ∧
      (pattern.ways line = [] ↔ ∀ marker, ¬Spells line marker) ∧
      read? line = matched? line ∧
      ∀ way ∈ pattern.ways line, ofGroups? way.groups = matched? line := by
  have found (marker : Marker) : matched? line = some marker ↔ Spells line marker := by
    rw [matched?_eq_read? one]
    exact read?_eq_some_iff
  refine ⟨found, ⟨?_, ?_⟩, (matched?_eq_read? one).symm, ?_⟩
  · intro none marker spelled
    exact ways_pattern_ne_nil one spelled none
  · intro unspelled
    cases h : pattern.ways line with
    | nil => rfl
    | cons way others =>
        obtain ⟨marker, -, read⟩ := ofGroups?_of_mem_ways (h ▸ List.mem_cons_self)
        exact absurd (read?_eq_some_iff.mp read) (unspelled marker)
  · intro way mem
    obtain ⟨marker, kept, read⟩ := ofGroups?_of_mem_ways mem
    rw [matched?_eq_read? one, read, kept]

end Line

/-- A line whose kind holds the mark that ends a comment, with blanks that the pattern can leave to
the parameters or to what follows them. -/
def gluedLine : List Char := " <!-- deploy-doc a-->b  -- c  -->\r\n".toList

/-- The pattern fits the line in several ways, and all of them keep the same words. -/
theorem matched?_gluedLine :
    (Text.lines gluedLine).length ≤ 1 ∧ (pattern.ways gluedLine).length = 6 ∧
      ∀ way ∈ pattern.ways gluedLine, ofGroups? way.groups = some ⟨"a-->b", ["--", "c"]⟩ := by
  have one : (Text.lines gluedLine).length ≤ 1 := by decide
  obtain ⟨found, -, -, all⟩ := matched?_eq_some_iff_spells one
  have spelled : Spells gluedLine ⟨"a-->b", ["--", "c"]⟩ :=
    ⟨" deploy-doc a-->b  -- c  ".toList, "a-->b".toList, ["--".toList, "c".toList],
      by decide, by decide, by decide⟩
  refine ⟨one, by decide +kernel, ?_⟩
  intro way mem
  rw [all way mem]
  exact (found _).mpr spelled

end Runbook.Marker

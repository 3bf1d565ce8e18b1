import Runbook.Plan.Basic
import Runbook.Proofs.Document.Extent
import Runbook.Proofs.Document.Marker

/-!
# Ends of comments

A comment is over at the first mark that ends comments. A marker is read up to the last one of its
line, so that its words can stand behind the comment. They are the words of a comment that fills the
line exactly if none of them holds the mark, since the mark holds no blanks and therefore stands
within a word wherever it stands between the token and the end of the line.
-/

namespace Runbook

namespace Text

/-- What stands in a text stands there for a first time. -/
theorem exists_first_of_infix {mark s : List Char} (nonempty : mark ≠ []) (h : mark <:+: s) :
    ∃ front back, s = front ++ mark ++ back ∧ ¬mark <:+: front := by
  induction s with
  | nil => exact absurd (List.infix_nil.mp h) nonempty
  | cons c s ih =>
      by_cases starts : mark <+: c :: s
      · obtain ⟨back, whole⟩ := starts
        refine ⟨[], back, by simpa using whole.symm, ?_⟩
        intro none
        exact nonempty (List.infix_nil.mp none)
      · obtain starts' | later := List.infix_cons_iff.mp h
        · exact absurd starts' starts
        · obtain ⟨front, back, rfl, first⟩ := ih later
          refine ⟨c :: front, back, rfl, ?_⟩
          intro early
          rcases List.infix_cons_iff.mp early with starts' | early
          · apply starts
            apply starts'.trans
            rw [List.append_assoc]
            exact List.prefix_append (c :: front) (mark ++ back)
          · exact first early

theorem mem_of_line? {lines : List (List Char)} {line : List Char} {n : Nat}
    (h : line? lines n = some line) : line ∈ lines := by
  cases n with
  | zero => cases h
  | succ n => exact List.mem_of_getElem? h

end Text

namespace Marker

/-- A line starts with a comment, which is over at the first end mark behind its start. -/
structure Comment (line inside behind : List Char) : Prop where
  whole : Text.trim line = startMark ++ inside ++ endMark ++ behind
  first : ¬endMark <:+: inside

theorem eq_nil_of_endMark_append {inside behind behind' : List Char}
    (h : endMark ++ behind = inside ++ endMark ++ behind') (first : ¬endMark <:+: inside) :
    inside = [] := by
  match inside with
  | [] => rfl
  | [c] => simp [endMark] at h
  | [c, d] => simp [endMark] at h
  | c :: d :: e :: inside =>
      simp only [endMark, List.cons_append, List.cons.injEq] at h
      obtain ⟨rfl, rfl, rfl, -⟩ := h
      exact absurd (List.prefix_append endMark inside).isInfix first

/-- The end marks of two divisions at the first one are the same mark. -/
theorem eq_of_endMark_first {inside inside' behind behind' : List Char}
    (h : inside ++ endMark ++ behind = inside' ++ endMark ++ behind')
    (first : ¬endMark <:+: inside) (first' : ¬endMark <:+: inside') :
    inside = inside' ∧ behind = behind' := by
  induction inside generalizing inside' with
  | nil =>
      obtain rfl := eq_nil_of_endMark_append h first'
      exact ⟨rfl, List.append_cancel_left h⟩
  | cons c inside ih =>
      cases inside' with
      | nil =>
          cases eq_nil_of_endMark_append h.symm first
      | cons d inside' =>
          obtain ⟨rfl, rest⟩ := List.cons.inj h
          have later := fun mark => first (List.infix_cons mark)
          have later' := fun mark => first' (List.infix_cons mark)
          obtain ⟨rfl, rfl⟩ := ih rest later later'
          exact ⟨rfl, rfl⟩

/-- A line starts with one comment at most. -/
theorem Comment.unique {line inside inside' behind behind' : List Char}
    (h : Comment line inside behind) (h' : Comment line inside' behind') :
    inside = inside' ∧ behind = behind' := by
  apply eq_of_endMark_first _ h.first h'.first
  have same := h.whole.symm.trans h'.whole
  simpa using same

/-- An end mark stands only where its last character does. -/
theorem not_endMark_infix {s : List Char} (h : '>' ∉ s) : ¬endMark <:+: s := by
  intro mark
  apply h
  apply mark.subset
  decide

theorem infix_body_iff {body kind : List Char} {params : List (List Char)}
    (h : Text.words body = token :: kind :: params) :
    endMark <:+: body ↔ ∃ word ∈ kind :: params, endMark <:+: word := by
  have nonempty : endMark ≠ [] := by decide
  have filled : ∀ c ∈ endMark, Text.isBlank c = false := by
    have marks : endMark.all (!Text.isBlank ·) = true := by decide
    simpa using marks
  have apart : ¬endMark <:+: token := not_endMark_infix (by decide)
  rw [Text.infix_iff_exists_mem_words nonempty filled, h]
  simp only [List.mem_cons, or_and_right, exists_or, exists_eq_left, apart, false_or]

/-- A line that is read as a marker starts with a comment. The comment fills the line exactly if no
word of the marker holds an end mark, and it holds the words of the marker if it fills the line. -/
theorem exists_comment_of_read? {line : List Char} {marker : Marker}
    (h : read? line = some marker) :
    ∃ inside behind, Comment line inside behind ∧
      (behind = [] ↔ ∀ word ∈ marker.kind :: marker.params, ¬endMark <:+: word.toList) ∧
      (behind = [] → Text.words inside =
        token :: marker.kind.toList :: marker.params.map String.toList) := by
  obtain ⟨body, kind, params, trimmed, words, rfl⟩ := read?_eq_some_iff.mp h
  have unmarked : (∀ word ∈ String.ofList kind :: params.map String.ofList,
      ¬endMark <:+: word.toList) ↔ ¬endMark <:+: body := by
    rw [infix_body_iff words]
    simp
  by_cases inner : endMark <:+: body
  · obtain ⟨inside, back, rfl, first⟩ := Text.exists_first_of_infix (by decide) inner
    have left : back ++ endMark ≠ [] := by simp [endMark]
    refine ⟨inside, back ++ endMark, ⟨by simp [trimmed], first⟩, ?_, ?_⟩
    · rw [unmarked]
      exact iff_of_false left (not_not_intro inner)
    · intro none
      exact absurd none left
  · refine ⟨body, [], ⟨by simp [trimmed], inner⟩, ?_, ?_⟩
    · simp only [unmarked, inner, not_false_eq_true]
    · intro _
      simp [words]

end Marker

namespace Directive

/-- A directive comes from a line that is read as its marker. -/
theorem Exact.exists_marker {source : String} {lines : List (List Char)} {directive : Directive}
    (h : Exact source lines directive) :
    ∃ line ∈ lines, Marker.read? line = some ⟨directive.kind, directive.params⟩ := by
  cases h with
  | blockless marked read => exact ⟨_, Text.mem_of_line? marked, read⟩
  | closed heading => exact ⟨_, Text.mem_of_line? heading.marked, heading.read⟩
  | unclosed heading => exact ⟨_, Text.mem_of_line? heading.marked, heading.read⟩

/-- The comment on the line of a directive fills its line exactly if no word of the directive holds
an end mark. A required variable is a word of a comment if the comment fills its line. -/
theorem comment_ends_of_mem_ofText (text source : String) :
    let lines := Text.lines text.toList
    (∀ directive ∈ ofText text source, ∃ line ∈ lines,
      Marker.read? line = some ⟨directive.kind, directive.params⟩ ∧
        ∃ inside behind, Marker.Comment line inside behind ∧
          (behind = [] ↔ ∀ word ∈ directive.kind :: directive.params,
            ¬Marker.endMark <:+: word.toList) ∧
          (behind = [] → Text.words inside =
            Marker.token :: directive.kind.toList :: directive.params.map String.toList)) ∧
    ∀ name ∈ Plan.requiredVarsOf (ofText text source), ∃ line ∈ lines, ∃ params,
      Marker.read? line = some ⟨Plan.requireKind, params⟩ ∧ name ∈ params ∧
        ∃ inside behind, Marker.Comment line inside behind ∧
          (behind = [] → Text.words inside =
            Marker.token :: Plan.requireKind.toList :: params.map String.toList) := by
  intro lines
  have marked : ∀ directive ∈ ofText text source, ∃ line ∈ lines,
      Marker.read? line = some ⟨directive.kind, directive.params⟩ := by
    intro directive mem
    exact (exact_of_mem_ofText mem).exists_marker
  constructor
  · intro directive mem
    obtain ⟨line, place, read⟩ := marked directive mem
    exact ⟨line, place, read, Marker.exists_comment_of_read? read⟩
  · intro name mem
    obtain ⟨directive, found, param⟩ := List.mem_flatMap.mp mem
    obtain ⟨mem, kind⟩ : directive ∈ ofText text source ∧ directive.kind = Plan.requireKind := by
      simpa using found
    obtain ⟨line, place, read⟩ := marked directive mem
    rw [kind] at read
    obtain ⟨inside, behind, comment, -, words⟩ := Marker.exists_comment_of_read? read
    exact ⟨line, place, directive.params, read, param, inside, behind, comment, words⟩

/-- A comment that requires a variable, with another end mark behind it. -/
def strayEnd : String := "<!-- deploy-doc require-env HOME --> USER -->\n"

theorem ofText_strayEnd :
    ofText strayEnd "d.md" = [⟨"require-env", ["HOME", "-->", "USER"], "d.md", ⟨1, 1⟩, ""⟩] := by
  decide +kernel

/-- The comment does not fill the line. -/
theorem comment_ends_strayEnd :
    ∃ line ∈ Text.lines strayEnd.toList, ∃ inside behind, Marker.Comment line inside behind ∧
      behind ≠ [] := by
  obtain ⟨found, -⟩ := comment_ends_of_mem_ofText strayEnd "d.md"
  obtain ⟨line, place, -, inside, behind, comment, fills, -⟩ :=
    found _ (ofText_strayEnd ▸ List.mem_cons_self)
  refine ⟨line, place, inside, behind, comment, ?_⟩
  intro none
  apply fills.mp none "-->"
  · decide
  · exact List.infix_rfl

/-- The variable behind the comment is required. -/
theorem requiredVarsOf_strayEnd :
    "USER" ∈ Plan.requiredVarsOf (ofText strayEnd "d.md") ∧
      (∃ directive ∈ ofText strayEnd "d.md", "-->" ∈ directive.params) ∧
      ∀ line ∈ Text.lines strayEnd.toList,
        Marker.Comment line " deploy-doc require-env HOME ".toList " USER -->".toList := by
  have one : Text.lines strayEnd.toList = [strayEnd.toList] := by decide +kernel
  rw [ofText_strayEnd, one]
  refine ⟨by decide, ⟨_, List.mem_cons_self, by decide⟩, ?_⟩
  rw [List.forall_mem_singleton]
  constructor
  · decide +kernel
  · apply Marker.not_endMark_infix
    decide +kernel

end Directive

end Runbook

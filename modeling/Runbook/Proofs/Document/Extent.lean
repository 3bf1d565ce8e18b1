import Runbook.Proofs.Document.Span

/-!
# Extents of directives

The span of a directive names the lines that it covers, counted from one. A marker without a block
covers its own line. A block reaches from its opening line to the first line behind it that closes
its fence, or to the end of the text, and its content is the text between these two.
-/

namespace Runbook

namespace Text

/-- The line with a number, counted from one. -/
def line? (lines : List (List Char)) : Nat → Option (List Char)
  | 0 => none
  | n + 1 => lines[n]?

/-- The text of the lines from number `first` to number `last`. -/
def extent (lines : List (List Char)) (first last : Nat) : List Char :=
  ((lines.take last).drop (first - 1)).flatten

theorem drop_behind {lines rest : List (List Char)} {line : List Char} {n : Nat}
    (behind : lines.drop n = line :: rest) (k : Nat) : lines.drop (n + 1 + k) = rest.drop k := by
  rw [← List.drop_drop, ← List.tail_drop, behind, List.tail_cons]

section Behind

variable {lines rest : List (List Char)} {n : Nat} (behind : lines.drop n = rest)
include behind

/-- The lines behind the first `n` ones have the numbers from `n + 1` on. -/
theorem line?_behind {i : Nat} (h : n < i) : line? lines i = rest[i - n - 1]? := by
  cases i with
  | zero => exact absurd h (Nat.not_lt_zero n)
  | succ i =>
      have place : n + (i + 1 - n - 1) = i := by omega
      rw [line?, ← behind, List.getElem?_drop, place]

theorem extent_behind (k : Nat) : extent lines (n + 1) (n + k) = (rest.take k).flatten := by
  rw [extent, Nat.add_sub_cancel, List.drop_take, behind, Nat.add_sub_cancel_left]

end Behind

end Text

namespace Directive

/-- A fence opens on line `s`, and the marker stands on a line `m` before it with blank lines only
between the two. -/
structure Heading (lines : List (List Char)) (marker : Marker) (fence : Fence) (m s : Nat)
    (line opening : List Char) : Prop where
  before : m < s
  marked : Text.line? lines m = some line
  read : Marker.read? line = some marker
  blank : ∀ i between, m < i → i < s → Text.line? lines i = some between →
    Text.allBlank between = true
  opened : Text.line? lines s = some opening
  opens : Fence.opening? opening = some fence

/-- A directive covers its lines: it is blockless and covers the line of its marker, it has a block
that ends at the first line that closes its fence, or it has a block that no line closes and that
ends with the text. -/
inductive Exact (source : String) (lines : List (List Char)) : Directive → Prop
  | blockless {s : Nat} {line : List Char} {marker : Marker}
    (marked : Text.line? lines s = some line) (read : Marker.read? line = some marker)
    (apart : ∀ next, (lines.drop s).find? (fun line => !Text.allBlank line) = some next →
      Fence.opening? next = none) :
    Exact source lines ⟨marker.kind, marker.params, source, ⟨s, s⟩, ""⟩
  | closed {m s e : Nat} {line opening closing : List Char} {marker : Marker} {fence : Fence}
    {content : String} (heading : Heading lines marker fence m s line opening) (behind : s < e)
    (ended : Text.line? lines e = some closing) (closes : fence.closedBy closing = true)
    (inside : ∀ i between, s < i → i < e → Text.line? lines i = some between →
      fence.closedBy between = false)
    (text : Text.extent lines s e = opening ++ content.toList ++ closing) :
    Exact source lines ⟨marker.kind, marker.params, source, ⟨s, e⟩, content⟩
  | unclosed {m s e : Nat} {line opening : List Char} {marker : Marker} {fence : Fence}
    {content : String} (heading : Heading lines marker fence m s line opening)
    (last : e = lines.length)
    (inside : ∀ i between, s < i → Text.line? lines i = some between →
      fence.closedBy between = false)
    (text : Text.extent lines s e = opening ++ content.toList) :
    Exact source lines ⟨marker.kind, marker.params, source, ⟨s, e⟩, content⟩

section Numbers

variable {lines : List (List Char)} {n : Nat}

/-- A fence ahead of a marker on line `n + 1` is headed by it. -/
theorem heading_of_fenceAhead? {line : List Char} {rest inner : List (List Char)} {marker : Marker}
    {blanks : Nat} {fence : Fence} (behind : lines.drop n = line :: rest)
    (read : Marker.read? line = some marker)
    (ahead : fenceAhead? rest = some (blanks, fence, inner)) :
    ∃ opening, lines.drop (n + blanks + 1) = opening :: inner ∧
      Heading lines marker fence (n + 1) (n + blanks + 2) line opening := by
  obtain ⟨before, opening, rfl, rfl, blank, opens⟩ := exists_opening_of_fenceAhead? ahead
  have next : lines.drop (n + 1) = before ++ opening :: inner := Text.drop_behind behind 0
  have opened : lines.drop (n + before.length + 1) = opening :: inner := by
    calc
      lines.drop (n + before.length + 1)
          = lines.drop (n + 1 + before.length) := by rw [Nat.add_right_comm]
      _ = (before ++ opening :: inner).drop before.length := Text.drop_behind behind _
      _ = opening :: inner := List.drop_left
  refine ⟨opening, opened, by omega, ?_, read, ?_, ?_, opens⟩
  · rw [Text.line?_behind behind (Nat.lt_succ_self n)]
    simp
  · intro i between above below found
    have short : i - (n + 1) - 1 < before.length := by omega
    rw [Text.line?_behind next above, List.getElem?_append_left short] at found
    exact blank between (List.mem_of_getElem? found)
  · have first : n + before.length + 2 - (n + before.length + 1) - 1 = 0 := by omega
    rw [Text.line?_behind opened (by omega), first]
    rfl

section Block

variable {source : String} {marker : Marker} {fence : Fence} {m : Nat} {line opening : List Char}
  {inner : List (List Char)} (heading : Heading lines marker fence m (n + 1) line opening)
  (opened : lines.drop n = opening :: inner)
include heading opened

theorem exact_of_closed {closing : List Char} {later : List (List Char)}
    (left : fence.afterBody inner = closing :: later) :
    Exact source lines (block source marker (n + 1) (n + 1 + (fence.body inner).length + 1)
      (fence.body inner)) := by
  have next : lines.drop (n + 1) = inner := Text.drop_behind opened 0
  apply Exact.closed heading
  · omega
  · have place : n + 1 + (fence.body inner).length + 1 - (n + 1) - 1 =
        (fence.body inner).length := by omega
    rw [Text.line?_behind next (by omega), place]
    exact Fence.getElem?_length_body left
  · exact Fence.closedBy_of_afterBody left
  · intro i between behind before found
    have short : i - (n + 1) - 1 < (fence.body inner).length := by omega
    rw [Text.line?_behind next behind, Fence.getElem?_of_lt_body short] at found
    exact Fence.closedBy_of_mem_body (List.mem_of_getElem? found)
  · have last : n + 1 + (fence.body inner).length + 1 = n + ((fence.body inner).length + 2) := by
      omega
    have taken : (opening :: inner).take ((fence.body inner).length + 2) =
        opening :: (fence.body inner ++ [closing]) := by
      rw [List.take_succ_cons, Fence.take_length_body left]
    rw [last, Text.extent_behind opened, taken, String.toList_ofList]
    simp

theorem exact_of_unclosed (left : fence.afterBody inner = []) :
    Exact source lines (block source marker (n + 1) (n + 1 + (fence.body inner).length)
      (fence.body inner)) := by
  have next : lines.drop (n + 1) = inner := Text.drop_behind opened 0
  have whole : fence.body inner = inner := by
    calc
      fence.body inner = fence.body inner ++ fence.afterBody inner := by rw [left, List.append_nil]
      _ = inner := fence.body_append_afterBody inner
  rw [whole]
  apply Exact.unclosed heading
  · have total := congrArg List.length opened
    rw [List.length_drop, List.length_cons] at total
    omega
  · intro i between behind found
    rw [Text.line?_behind next behind, ← whole] at found
    exact Fence.closedBy_of_mem_body (List.mem_of_getElem? found)
  · have last : n + 1 + inner.length = n + (inner.length + 1) := by omega
    rw [last, Text.extent_behind opened, List.take_succ_cons, List.take_length,
      String.toList_ofList]
    rfl

/-- The block behind a heading covers its lines. -/
theorem exact_block :
    Exact source lines (block source marker (n + 1)
      (n + 1 + (fence.body inner).length + if (fence.afterBody inner).isEmpty then 0 else 1)
      (fence.body inner)) := by
  cases left : fence.afterBody inner with
  | nil => exact exact_of_unclosed heading opened left
  | cons closing later => exact exact_of_closed heading opened left

end Block

end Numbers

/-- The directives found behind the first `n` lines cover their lines. -/
theorem exact_scan (source : String) (lines rest : List (List Char)) (k : Nat) :
    ∀ n, lines.drop n = rest → k = n + 1 →
      ∀ directive ∈ scan source k rest, Exact source lines directive := by
  fun_induction scan source k rest with
  | case1 k => simp
  | case2 k line rest fence ho length ih =>
      intro n behind number
      have later : lines.drop (n + length + 2) = rest.drop (length + 1) := by
        rw [← Text.drop_behind behind]
        congr 1
        omega
      exact ih _ later (by omega)
  | case3 k line rest ho hm ih =>
      intro n behind number
      exact ih _ (Text.drop_behind behind 0) (by omega)
  | case4 k line rest ho marker hm ha ih =>
      intro n behind number
      rw [List.forall_mem_cons]
      constructor
      · have marked : Text.line? lines k = some line := by
          rw [Text.line?_behind behind (by omega), number]
          simp
        apply Exact.blockless marked hm
        intro next found
        rw [number, Text.drop_behind behind 0] at found
        exact opening?_of_fenceAhead?_eq_none ha found
      · exact ih _ (Text.drop_behind behind 0) (by omega)
  | case5 k line rest ho marker hm blanks fence inner ha first body closing shorter ih =>
      intro n behind number
      obtain ⟨opening, opened, heading⟩ := heading_of_fenceAhead? behind hm ha
      have start : first = n + blanks + 1 + 1 := by omega
      rw [List.forall_mem_cons]
      constructor
      · rw [start]
        exact exact_block heading opened
      · have later : lines.drop (first + body.length + 1) = inner.drop (body.length + 1) := by
          rw [← Text.drop_behind opened]
          congr 1
          omega
        exact ih _ later (by omega)

theorem exact_of_mem_ofText {text source : String} {directive : Directive}
    (mem : directive ∈ ofText text source) : Exact source (Text.lines text.toList) directive :=
  exact_scan source _ _ 1 0 rfl rfl directive mem

/-- Directives are in order, one behind the other, within the text, and cover their lines. -/
theorem exact_ofText (text source : String) :
    let lines := Text.lines text.toList
    (ofText text source).Pairwise (fun a b => a.span.last < b.span.first) ∧
      ∀ directive ∈ ofText text source,
        1 ≤ directive.span.first ∧ directive.span.first ≤ directive.span.last ∧
          directive.span.last ≤ lines.length ∧ Exact source lines directive := by
  intro lines
  constructor
  · exact pairwise_scan source 1 lines
  · intro directive mem
    obtain ⟨-, le_first, first_le_last, last_lt⟩ := within_scan source 1 lines directive mem
    refine ⟨le_first, first_le_last, by omega, ?_⟩
    exact exact_scan source lines lines 1 0 rfl rfl directive mem

/-- A fence on the last line opens a block without content that ends with this line. -/
example : ofText "<!-- deploy-doc run-tests -->\n \n```" "last.md" =
    [⟨"run-tests", [], "last.md", ⟨3, 3⟩, ""⟩] := by decide +kernel

end Directive

end Runbook

import Runbook.Document.Fence
import Runbook.Document.Marker
import Runbook.Document.Span

/-!
# Directives of a document

A directive is a marker together with the fenced block that follows it, blank lines between them
allowed. Markers inside a block are text of the block. `scan` reads the lines once: at a fence it
goes on behind the block, at a marker it looks ahead over blank lines for a fence.
-/

namespace Runbook

/-- A marker of a document with the content of its block. The span covers the block with its
fences, or the marker's own line when it has no block. -/
structure Directive where
  kind : String
  params : List String
  source : String
  span : Span
  content : String
  deriving DecidableEq, Repr

namespace Directive

/-- The directive of a marker on the given line that no block follows. -/
def blockless (source : String) (marker : Marker) (line : Nat) : Directive :=
  ⟨marker.kind, marker.params, source, Span.line line, ""⟩

/-- The directive of a marker whose block covers the given lines. -/
def block (source : String) (marker : Marker) (first last : Nat) (body : List (List Char)) :
    Directive :=
  ⟨marker.kind, marker.params, source, ⟨first, last⟩, String.ofList body.flatten⟩

/-- The first fence behind blank lines: their number, the fence, and the lines behind it. -/
def fenceAhead? (lines : List (List Char)) : Option (Nat × Fence × List (List Char)) :=
  match lines.dropWhile Text.allBlank with
  | [] => none
  | line :: rest =>
    (Fence.opening? line).map fun fence => ((lines.takeWhile Text.allBlank).length, fence, rest)

theorem length_fenceAhead? {lines rest : List (List Char)} {blanks : Nat} {fence : Fence}
    (h : fenceAhead? lines = some (blanks, fence, rest)) : rest.length < lines.length := by
  unfold fenceAhead? at h
  split at h
  · cases h
  · next line tail hd =>
    obtain ⟨f, _, hf⟩ := Option.map_eq_some_iff.1 h
    cases hf
    have hl : (lines.dropWhile Text.allBlank).length ≤ lines.length :=
      (List.dropWhile_sublist _).length_le
    simp only [hd, List.length_cons] at hl
    omega

/-- The directives in the lines from number `n` on. -/
def scan (source : String) (n : Nat) (lines : List (List Char)) : List Directive :=
  match lines with
  | [] => []
  | line :: rest =>
    match Fence.opening? line with
    | some fence =>
      let length := (fence.body rest).length
      scan source (n + length + 2) (rest.drop (length + 1))
    | none =>
      match Marker.read? line with
      | none => scan source (n + 1) rest
      | some marker =>
        match h : fenceAhead? rest with
        | none => blockless source marker n :: scan source (n + 1) rest
        | some (blanks, fence, inner) =>
          let first := n + blanks + 1
          let body := fence.body inner
          let closing := if (fence.afterBody inner).isEmpty then 0 else 1
          have := length_fenceAhead? h
          block source marker first (first + body.length + closing) body ::
            scan source (first + body.length + 2) (inner.drop (body.length + 1))
termination_by lines.length
decreasing_by
  all_goals simp only [List.length_drop, List.length_cons]
  all_goals omega

/-- The directives of a document, in order. -/
def ofText (text source : String) : List Directive :=
  scan source 1 (Text.lines text.toList)

end Directive

end Runbook

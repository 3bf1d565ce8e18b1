import Mathlib.Data.List.TakeWhile
import Runbook.Document.Directive

/-!
# Blocks in lines

A block takes lines up to the first one that closes its fence. A marker finds the first fence behind
blank lines. Both cut the lines in parts that join to the whole.
-/

namespace Runbook

namespace Fence

theorem body_append_afterBody (fence : Fence) (lines : List (List Char)) :
    fence.body lines ++ fence.afterBody lines = lines :=
  List.takeWhile_append_dropWhile

theorem length_body_add (fence : Fence) (lines : List (List Char)) :
    (fence.body lines).length + (fence.afterBody lines).length = lines.length := by
  rw [← List.length_append, body_append_afterBody]

variable {fence : Fence} {lines : List (List Char)}

theorem closedBy_of_mem_body {line : List Char} (h : line ∈ fence.body lines) :
    fence.closedBy line = false := by
  simpa using List.mem_takeWhile_imp h

/-- The lines of a block stand first. -/
theorem getElem?_of_lt_body {i : Nat} (h : i < (fence.body lines).length) :
    lines[i]? = (fence.body lines)[i]? := by
  calc
    lines[i]? = (fence.body lines ++ fence.afterBody lines)[i]? := by rw [body_append_afterBody]
    _ = (fence.body lines)[i]? := List.getElem?_append_left h

section Closed

variable {closing : List Char} {later : List (List Char)}
  (closed : fence.afterBody lines = closing :: later)
include closed

/-- The line behind a block closes it. -/
theorem closedBy_of_afterBody : fence.closedBy closing = true := by
  have first := List.head?_dropWhile_not (fun line => !fence.closedBy line) lines
  rw [afterBody] at closed
  simpa [closed] using first

theorem take_length_body :
    lines.take ((fence.body lines).length + 1) = fence.body lines ++ [closing] := by
  calc
    lines.take ((fence.body lines).length + 1)
        = (fence.body lines ++ closing :: later).take ((fence.body lines).length + 1) := by
          rw [← closed, body_append_afterBody]
    _ = fence.body lines ++ [closing] := List.take_length_add_append 1

theorem getElem?_length_body : lines[(fence.body lines).length]? = some closing := by
  calc
    lines[(fence.body lines).length]?
        = (fence.body lines ++ closing :: later)[(fence.body lines).length]? := by
          rw [← closed, body_append_afterBody]
    _ = some closing := by simp

end Closed

section Divided

variable {inside : List (List Char)} {closing : List Char}
  (unclosed : ∀ line ∈ inside, fence.closedBy line = false)
  (closed : fence.closedBy closing = true)
include unclosed closed

/-- The first line that closes a block divides the lines. -/
theorem body_append_cons (later : List (List Char)) :
    fence.body (inside ++ closing :: later) = inside := by
  have kept : ∀ line ∈ inside, (!fence.closedBy line) = true := by simpa using unclosed
  rw [body, List.takeWhile_append_of_pos kept]
  simp [closed]

theorem afterBody_append_cons (later : List (List Char)) :
    fence.afterBody (inside ++ closing :: later) = closing :: later := by
  have kept : ∀ line ∈ inside, (!fence.closedBy line) = true := by simpa using unclosed
  rw [afterBody, List.dropWhile_append_of_pos kept]
  simp [closed]

end Divided

end Fence

namespace Directive

variable {lines : List (List Char)}

/-- Where no fence is ahead, the next line that is not blank opens none. -/
theorem opening?_of_fenceAhead?_eq_none (h : fenceAhead? lines = none) {next : List Char}
    (found : lines.find? (fun line => !Text.allBlank line) = some next) :
    Fence.opening? next = none := by
  rw [List.find?_not_eq_head?_dropWhile, List.head?_eq_some_iff] at found
  obtain ⟨rest, found⟩ := found
  simpa [fenceAhead?, found] using h

section Ahead

variable {inner : List (List Char)} {blanks : Nat} {fence : Fence}
  (h : fenceAhead? lines = some (blanks, fence, inner))
include h

/-- A fence ahead opens behind blank lines. -/
theorem exists_opening_of_fenceAhead? :
    ∃ before opening, lines = before ++ opening :: inner ∧ before.length = blanks ∧
      (∀ line ∈ before, Text.allBlank line = true) ∧ Fence.opening? opening = some fence := by
  unfold fenceAhead? at h
  split at h
  · cases h
  · next opening rest found =>
    obtain ⟨_, opens, same⟩ := Option.map_eq_some_iff.mp h
    cases same
    refine ⟨lines.takeWhile Text.allBlank, opening, ?_, rfl, ?_, opens⟩
    · rw [← found, List.takeWhile_append_dropWhile]
    · intro line mem
      exact List.mem_takeWhile_imp mem

theorem length_eq_of_fenceAhead? : lines.length = blanks + inner.length + 1 := by
  obtain ⟨before, opening, rfl, rfl, -⟩ := exists_opening_of_fenceAhead? h
  rw [List.length_append, List.length_cons, Nat.add_assoc]

end Ahead

end Directive

end Runbook

import Runbook.Document.Directive

/-!
# Reading a document once

The directives of a document are found by an automaton that reads each line once. Its mode holds
what earlier lines leave open: nothing, a marker, a block of plain text, or the block of a marker.
-/

namespace Runbook

namespace Fence

theorem opening?_of_allBlank {line : List Char} (h : Text.allBlank line = true) :
    opening? line = none := by
  have blank : ∀ c ∈ line, Text.isBlank c = true := List.all_eq_true.mp h
  cases hd : line.dropWhile (· == ' ') with
  | nil => simp [opening?, split?, afterMargin?, hd]
  | cons c rest =>
      have mem : c ∈ line := (List.dropWhile_sublist _).subset (hd ▸ List.mem_cons_self)
      have unmarked : FenceMark.ofChar? c = none := by
        have hb : c ≠ '\x60' := by
          rintro rfl
          exact absurd (blank _ mem) (by decide)
        have ht : c ≠ '~' := by
          rintro rfl
          exact absurd (blank _ mem) (by decide)
        simp [FenceMark.ofChar?, hb, ht]
      by_cases hm : (line.takeWhile (· == ' ')).length ≤ 3
      · simp [opening?, split?, afterMargin?, hd, hm, unmarked]
      · simp [opening?, split?, afterMargin?, hm]

theorem allBlank_of_opening? {line : List Char} {fence : Fence} (h : opening? line = some fence) :
    Text.allBlank line = false := by
  cases blank : Text.allBlank line with
  | false => rfl
  | true => simp [opening?_of_allBlank blank] at h

end Fence

theorem Text.trimStart_of_allBlank {line : List Char} (h : allBlank line = true) :
    trimStart line = [] := by
  induction line with
  | nil => rfl
  | cons c line ih =>
      have blank : isBlank c = true ∧ allBlank line = true := by simpa [allBlank] using h
      rw [trimStart, List.dropWhile_cons_of_pos blank.1]
      exact ih blank.2

theorem Marker.read?_of_allBlank {line : List Char} (h : Text.allBlank line = true) :
    Marker.read? line = none := by
  simp [Marker.read?, Text.trim, Text.trimStart_of_allBlank h, Text.trimEnd, Marker.commentBody?]

namespace Directive

/-- What the lines read so far leave open. -/
inductive Mode where
  | idle
  | pending (marker : Marker) (line : Nat)
  | literal (fence : Fence)
  | block (marker : Marker) (fence : Fence) (first : Nat) (body : List (List Char))
  deriving DecidableEq, Repr

namespace Mode

/-- The mode behind a line that is read while nothing is open. -/
def opened (n : Nat) (line : List Char) : Mode :=
  match Fence.opening? line with
  | some fence => .literal fence
  | none =>
    match Marker.read? line with
    | some marker => .pending marker n
    | none => .idle

/-- The directives that line `n` completes, and the mode behind it. -/
def step (source : String) (n : Nat) (line : List Char) : Mode → List Directive × Mode
  | .idle => ([], opened n line)
  | .pending marker first =>
    if Text.allBlank line then ([], .pending marker first)
    else
      match Fence.opening? line with
      | some fence => ([], .block marker fence n [])
      | none => ([blockless source marker first], opened n line)
  | .literal fence => ([], if fence.closedBy line then .idle else .literal fence)
  | .block marker fence first body =>
    if fence.closedBy line then ([Directive.block source marker first n body], .idle)
    else ([], .block marker fence first (body ++ [line]))

/-- The directives that the end of a text completes behind its last line `n`. -/
def close (source : String) (n : Nat) : Mode → List Directive
  | .idle | .literal _ => []
  | .pending marker first => [blockless source marker first]
  | .block marker _ first body => [Directive.block source marker first n body]

/-- The directives that are completed from a mode behind line `n` on. -/
def complete (source : String) : Nat → Mode → List (List Char) → List Directive
  | n, mode, [] => mode.close source n
  | n, mode, line :: lines =>
    let (completed, mode) := mode.step source (n + 1) line
    completed ++ complete source (n + 1) mode lines

end Mode

/-- The state of the automaton: how many lines were read, the directives they completed, and the
mode behind them. -/
structure Reader where
  count : Nat
  found : List Directive
  mode : Mode
  deriving DecidableEq, Repr

namespace Reader

/-- The state before the first line. -/
def start : Reader := ⟨0, [], .idle⟩

/-- Reads one line. -/
def read (source : String) (reader : Reader) (line : List Char) : Reader :=
  let (completed, mode) := reader.mode.step source (reader.count + 1) line
  ⟨reader.count + 1, reader.found ++ completed, mode⟩

/-- The directives found when the text ends here. -/
def finish (source : String) (reader : Reader) : List Directive :=
  reader.found ++ reader.mode.close source reader.count

/-- Reading on adds to what was found. -/
theorem finish_foldl_read (source : String) (lines : List (List Char)) (reader : Reader) :
    (lines.foldl (read source) reader).finish source =
      reader.found ++ reader.mode.complete source reader.count lines := by
  induction lines generalizing reader with
  | nil => rfl
  | cons line lines ih =>
      rw [List.foldl_cons, ih, Mode.complete, read]
      simp only [List.append_assoc]

end Reader

namespace Mode

variable (source : String) (n : Nat)

theorem opened_of_allBlank {line : List Char} (h : Text.allBlank line = true) :
    opened n line = .idle := by
  simp [opened, Fence.opening?_of_allBlank h, Marker.read?_of_allBlank h]

section Opening

variable {fence : Fence} {line : List Char} (opens : Fence.opening? line = some fence)
include opens

/-- A fence without a marker before it opens a plain block. -/
theorem complete_idle_cons (lines : List (List Char)) :
    complete source n .idle (line :: lines) = complete source (n + 1) (.literal fence) lines := by
  simp [complete, step, opened, opens]

/-- A fence opens the block of the marker that is pending before it. -/
theorem complete_pending_cons (marker : Marker) (first : Nat) (lines : List (List Char)) :
    complete source n (.pending marker first) (line :: lines) =
      complete source (n + 1) (.block marker fence (n + 1) []) lines := by
  simp [complete, step, Fence.allBlank_of_opening? opens, opens]

end Opening

/-- A plain block is left behind its closing line, or never. -/
theorem complete_literal (fence : Fence) (lines : List (List Char)) :
    complete source n (.literal fence) lines =
      complete source (n + (fence.body lines).length + 1) .idle
        (lines.drop ((fence.body lines).length + 1)) := by
  induction lines generalizing n with
  | nil => rfl
  | cons line lines ih =>
      cases h : fence.closedBy line with
      | true => simp [complete, step, Fence.body, h]
      | false =>
          have hb : fence.body (line :: lines) = line :: fence.body lines := by
            simp [Fence.body, h]
          have count : n + 1 + (fence.body lines).length + 1 =
              n + (line :: fence.body lines).length + 1 := by
            rw [List.length_cons]
            omega
          have read : complete source n (.literal fence) (line :: lines) =
              complete source (n + 1) (.literal fence) lines := by
            simp [complete, step, h]
          rw [read, ih, hb, count]
          rfl

/-- The block of a marker is completed by its closing line, or by the end of the text. -/
theorem complete_block (marker : Marker) (fence : Fence) (first : Nat)
    (body lines : List (List Char)) :
    complete source n (.block marker fence first body) lines =
      Directive.block source marker first
          (n + (fence.body lines).length + if (fence.afterBody lines).isEmpty then 0 else 1)
          (body ++ fence.body lines) ::
        complete source (n + (fence.body lines).length + 1) .idle
          (lines.drop ((fence.body lines).length + 1)) := by
  induction lines generalizing n body with
  | nil => simp [complete, close, Fence.body, Fence.afterBody]
  | cons line lines ih =>
      cases h : fence.closedBy line with
      | true => simp [complete, step, Fence.body, Fence.afterBody, h]
      | false =>
          have hb : fence.body (line :: lines) = line :: fence.body lines := by
            simp [Fence.body, h]
          have ha : fence.afterBody (line :: lines) = fence.afterBody lines := by
            simp [Fence.afterBody, h]
          have count : n + 1 + (fence.body lines).length =
              n + (line :: fence.body lines).length := by
            rw [List.length_cons]
            omega
          have read : complete source n (.block marker fence first body) (line :: lines) =
              complete source (n + 1) (.block marker fence first (body ++ [line])) lines := by
            simp [complete, step, h]
          rw [read, ih, hb, ha, count, List.append_assoc]
          rfl

theorem fenceAhead?_cons_of_allBlank {line : List Char} (h : Text.allBlank line = true)
    (lines : List (List Char)) :
    fenceAhead? (line :: lines) =
      (fenceAhead? lines).map fun (blanks, fence, inner) => (blanks + 1, fence, inner) := by
  unfold fenceAhead?
  rw [List.dropWhile_cons_of_pos h, List.takeWhile_cons_of_pos h, List.length_cons]
  cases lines.dropWhile Text.allBlank with
  | nil => rfl
  | cons next rest => simp [Function.comp_def]

theorem fenceAhead?_cons_of_not_allBlank {line : List Char} (h : Text.allBlank line = false)
    (lines : List (List Char)) :
    fenceAhead? (line :: lines) = (Fence.opening? line).map fun fence => (0, fence, lines) := by
  simp [fenceAhead?, h]

/-- A marker takes the first fence behind blank lines, and is blockless if there is none. -/
theorem complete_pending (marker : Marker) (first : Nat) (lines : List (List Char)) :
    complete source n (.pending marker first) lines =
      match fenceAhead? lines with
      | some (blanks, fence, inner) =>
        complete source (n + blanks + 1) (.block marker fence (n + blanks + 1) []) inner
      | none => blockless source marker first :: complete source n .idle lines := by
  induction lines generalizing n with
  | nil => rfl
  | cons line lines ih =>
      cases h : Text.allBlank line with
      | true =>
          have waited : complete source n (.pending marker first) (line :: lines) =
              complete source (n + 1) (.pending marker first) lines := by
            simp [complete, step, h]
          have skipped : complete source n .idle (line :: lines) =
              complete source (n + 1) .idle lines := by
            simp [complete, step, opened_of_allBlank (n + 1) h]
          rw [waited, skipped, ih, fenceAhead?_cons_of_allBlank h]
          cases fenceAhead? lines with
          | none => rfl
          | some ahead =>
              obtain ⟨blanks, fence, inner⟩ := ahead
              have count : n + 1 + blanks + 1 = n + (blanks + 1) + 1 := by omega
              simp only [Option.map_some, count]
      | false =>
          rw [fenceAhead?_cons_of_not_allBlank h]
          cases ho : Fence.opening? line with
          | none => simp [complete, step, h, ho]
          | some fence => exact complete_pending_cons source n ho marker first lines

/-- The scan that looks ahead finds what the automaton completes line by line. -/
theorem scan_eq_complete {m : Nat} (h : m = n + 1) (lines : List (List Char)) :
    scan source m lines = complete source n .idle lines := by
  fun_induction scan source m lines generalizing n with
  | case1 m => rfl
  | case2 m line rest fence ho length ih =>
      have later := ih (n + 1 + length + 1) (by omega)
      rw [complete_idle_cons source n ho, complete_literal, later]
  | case3 m line rest ho hm ih =>
      have skipped : complete source n .idle (line :: rest) =
          complete source (n + 1) .idle rest := by
        simp [complete, step, opened, ho, hm]
      rw [skipped, ih (n + 1) (by omega)]
  | case4 m line rest ho marker hm ha ih =>
      have entered : complete source n .idle (line :: rest) =
          complete source (n + 1) (.pending marker (n + 1)) rest := by
        simp [complete, step, opened, ho, hm]
      rw [entered, complete_pending, ha, ih (n + 1) (by omega), h]
  | case5 m line rest ho marker hm blanks fence inner ha first body closing shorter ih =>
      have entered : complete source n .idle (line :: rest) =
          complete source (n + 1) (.pending marker (n + 1)) rest := by
        simp [complete, step, opened, ho, hm]
      have opening : n + 1 + blanks + 1 = first := by omega
      have later := ih (first + body.length + 1) (by omega)
      rw [entered, complete_pending, ha]
      simp only
      rw [complete_block, opening, List.nil_append, later]
      rfl

end Mode

/-- The directives of a document are those that the automaton finds in its lines, and what it has
found behind some lines stays at the front whatever lines follow. -/
theorem ofText_eq_finish_foldl_read (text source : String) :
    let run (lines : List (List Char)) := lines.foldl (Reader.read source) .start
    ofText text source = (run (Text.lines text.toList)).finish source ∧
      ∀ front back, Text.lines text.toList = front ++ back →
        (run front).found <+: ofText text source := by
  intro run
  have found : ofText text source = (run (Text.lines text.toList)).finish source := by
    rw [Reader.finish_foldl_read]
    exact Mode.scan_eq_complete source 0 rfl _
  refine ⟨found, ?_⟩
  intro front back h
  have parts : run (Text.lines text.toList) = back.foldl (Reader.read source) (run front) := by
    rw [h]
    exact List.foldl_append
  rw [found, parts, Reader.finish_foldl_read]
  exact List.prefix_append ..

end Directive

end Runbook

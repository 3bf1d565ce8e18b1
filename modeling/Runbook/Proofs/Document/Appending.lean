import Mathlib.Data.List.Induction
import Runbook.Proofs.Document.Automaton
import Runbook.Proofs.Text.Lines

/-!
# Appending to a document

Behind a text that ends its last line, the automaton reads on in the mode in which the text left it.
What it has found stays found, and only the last directive, whose block may still be open, is
continued. If no block is left open and the last line that is not blank is no marker, then nothing
is open, and the appended text is read as if it stood alone, with its lines numbered from there on.
-/

namespace Runbook

namespace Fence

/-- The blocks that lines enter: the fence of each, and the lines behind the one that opens it. -/
def entered (lines : List (List Char)) : List (Fence × List (List Char)) :=
  match lines with
  | [] => []
  | line :: rest =>
    match opening? line with
    | none => entered rest
    | some fence => (fence, rest) :: entered (rest.drop ((fence.body rest).length + 1))
termination_by lines.length

/-- The fence that is open behind a line. -/
def through (state : Option Fence) (line : List Char) : Option Fence :=
  match state with
  | some fence => if fence.closedBy line then none else some fence
  | none => opening? line

/-- A block that a line closes is left behind its body. -/
theorem foldl_through_of_closed {fence : Fence} {lines : List (List Char)}
    (closed : ∃ line ∈ lines, fence.closedBy line = true) :
    lines.foldl through (some fence) =
      (lines.drop ((fence.body lines).length + 1)).foldl through none := by
  induction lines with
  | nil => simp at closed
  | cons line lines ih =>
      cases h : fence.closedBy line with
      | true => simp [through, body, h]
      | false =>
          have later : ∃ line ∈ lines, fence.closedBy line = true := by simpa [h] using closed
          have longer : fence.body (line :: lines) = line :: fence.body lines := by
            simp [body, h]
          have kept : through (some fence) line = some fence := by simp [through, h]
          rw [List.foldl_cons, kept, ih later, longer, List.length_cons, List.drop_succ_cons]

theorem foldl_through_of_unclosed {fence : Fence} {lines : List (List Char)}
    (unclosed : ∀ line ∈ lines, fence.closedBy line = false) :
    lines.foldl through (some fence) = some fence := by
  induction lines with
  | nil => rfl
  | cons line lines ih =>
      obtain ⟨first, later⟩ := List.forall_mem_cons.mp unclosed
      simp [through, first, ih later]

/-- No fence is open in the end if every block that is entered is closed, and only then. -/
theorem foldl_through_eq_none_iff (lines : List (List Char)) :
    lines.foldl through none = none ↔
      ∀ block ∈ entered lines, ∃ line ∈ block.2, block.1.closedBy line = true := by
  fun_induction entered lines with
  | case1 => simp
  | case2 line rest ho ih => rw [List.foldl_cons, through, ho, ih]
  | case3 line rest fence ho ih =>
      rw [List.foldl_cons, through, ho, List.forall_mem_cons, ← ih]
      by_cases closed : ∃ line ∈ rest, fence.closedBy line = true
      · rw [foldl_through_of_closed closed]
        simp [closed]
      · have unclosed : ∀ line ∈ rest, fence.closedBy line = false := by simpa using closed
        rw [foldl_through_of_unclosed unclosed]
        simp [closed]

end Fence

/-- The span of a part of a document when its lines are moved. -/
def Span.shift (k : Int) (span : Span) : Span := ⟨span.first + k, span.last + k⟩

namespace Directive

/-- The directive when the lines of its document are moved. -/
def shift (k : Int) (directive : Directive) : Directive :=
  { directive with span := directive.span.shift k }

/-- A directive goes on as another one that has the same marker and perhaps more content. -/
structure ContinuedBy (a b : Directive) : Prop where
  kind_eq : b.kind = a.kind
  params_eq : b.params = a.params
  source_eq : b.source = a.source
  content : a.content.toList <+: b.content.toList

theorem ContinuedBy.refl (directive : Directive) : directive.ContinuedBy directive :=
  ⟨rfl, rfl, rfl, List.prefix_rfl⟩

namespace Mode

/-- The mode when the lines read so far are moved. -/
def shift (k : Nat) : Mode → Mode
  | .idle => .idle
  | .pending marker line => .pending marker (line + k)
  | .literal fence => .literal fence
  | .block marker fence first body => .block marker fence (first + k) body

/-- The fence of the block that is open. -/
def fence? : Mode → Option Fence
  | .idle | .pending _ _ => none
  | .literal fence | .block _ fence _ _ => some fence

variable (source : String) (n : Nat)

/-- A line that is neither blank nor a fence leaves the marker before it without a block. -/
theorem step_pending {line : List Char} (filled : Text.allBlank line = false)
    (ho : Fence.opening? line = none) (marker : Marker) (first : Nat) :
    (pending marker first).step source n line =
      ([blockless source marker first], opened n line) := by
  simp [step, filled, ho]

section Moved

variable (k : Nat)

theorem opened_shift (line : List Char) : opened (n + k) line = (opened n line).shift k := by
  unfold opened
  split
  · rfl
  · split <;> rfl

theorem close_shift (mode : Mode) :
    (mode.shift k).close source (n + k) = (mode.close source n).map (Directive.shift k) := by
  cases mode <;> simp [shift, close, Directive.shift, Span.shift, blockless, Directive.block,
    Span.line]

theorem step_shift (line : List Char) (mode : Mode) :
    (mode.shift k).step source (n + k) line =
      ((mode.step source n line).1.map (Directive.shift k),
        (mode.step source n line).2.shift k) := by
  cases mode with
  | idle => simp [shift, step, opened_shift]
  | pending marker first =>
      cases blank : Text.allBlank line with
      | true => simp [shift, step, blank]
      | false =>
          cases ho : Fence.opening? line with
          | some fence => simp [shift, step, blank, ho]
          | none =>
              rw [step_pending source n blank ho, shift, step_pending source (n + k) blank ho,
                opened_shift]
              rfl
  | literal fence => cases h : fence.closedBy line <;> simp [shift, step, h]
  | block marker fence first body =>
      cases h : fence.closedBy line with
      | true => simp [shift, step, h, Directive.block, Directive.shift, Span.shift]
      | false => simp [shift, step, h]

/-- Directives that are found on moved lines are moved as well. -/
theorem complete_shift (mode : Mode) (lines : List (List Char)) :
    (mode.shift k).complete source (n + k) lines =
      (mode.complete source n lines).map (Directive.shift k) := by
  induction lines generalizing n mode with
  | nil => exact close_shift source n k mode
  | cons line lines ih =>
      have count : n + k + 1 = n + 1 + k := Nat.add_right_comm n k 1
      simp only [complete, count, step_shift, ih, List.map_append]

end Moved

section Fences

theorem fence?_opened (line : List Char) : (opened n line).fence? = Fence.opening? line := by
  unfold opened
  split
  · next ho => rw [ho]; rfl
  · next ho =>
    rw [ho]
    split <;> rfl

/-- Which fence is open behind a line hangs on the fence before it only, and not on markers. -/
theorem fence?_step (line : List Char) (mode : Mode) :
    (mode.step source n line).2.fence? = Fence.through mode.fence? line := by
  cases mode with
  | idle => exact fence?_opened n line
  | pending marker first =>
      cases blank : Text.allBlank line with
      | true => simp [step, blank, fence?, Fence.through, Fence.opening?_of_allBlank blank]
      | false =>
          cases ho : Fence.opening? line with
          | some fence => simp [step, blank, ho, fence?, Fence.through]
          | none =>
              rw [step_pending source n blank ho, fence?_opened]
              rfl
  | literal fence => cases h : fence.closedBy line <;> simp [step, h, fence?, Fence.through]
  | block marker fence first body =>
      cases h : fence.closedBy line <;> simp [step, h, fence?, Fence.through]

end Fences

/-- A marker is pending behind the line that holds it, and behind the blank lines that follow. -/
theorem pending_of_step {line : List Char} {mode : Mode} {marker : Marker} {first : Nat}
    (h : (mode.step source n line).2 = .pending marker first) :
    (Text.allBlank line = true ∧ mode = .pending marker first) ∨
      (Text.allBlank line = false ∧ Marker.read? line = some marker) := by
  have held (h : opened n line = .pending marker first) :
      Text.allBlank line = false ∧ Marker.read? line = some marker := by
    cases blank : Text.allBlank line with
    | true => simp [opened_of_allBlank n blank] at h
    | false =>
        unfold opened at h
        split at h
        · cases h
        · split at h
          · next found =>
            cases h
            exact ⟨rfl, found⟩
          · cases h
  cases mode with
  | idle => exact .inr (held h)
  | pending marker first =>
      cases blank : Text.allBlank line with
      | true => exact .inl ⟨rfl, by simpa [step, blank] using h⟩
      | false =>
          cases ho : Fence.opening? line with
          | some fence => simp [step, blank, ho] at h
          | none =>
              rw [step_pending source n blank ho] at h
              exact .inr (blank ▸ held h)
  | literal fence => cases closed : fence.closedBy line <;> simp [step, closed] at h
  | block marker fence first body => cases closed : fence.closedBy line <;> simp [step, closed] at h

/-- What the end of a text completes is continued when lines follow. -/
theorem close_cases (mode : Mode) (lines : List (List Char)) :
    mode.close source n = [] ∨
      ∃ last grown later, mode.close source n = [last] ∧
        mode.complete source n lines = grown :: later ∧ last.ContinuedBy grown := by
  cases mode with
  | idle => exact .inl rfl
  | literal fence => exact .inl rfl
  | pending marker first =>
      refine .inr ⟨blockless source marker first, ?_⟩
      rw [complete_pending]
      cases fenceAhead? lines with
      | none => exact ⟨_, _, rfl, rfl, .refl _⟩
      | some ahead =>
          obtain ⟨blanks, fence, inner⟩ := ahead
          simp only [complete_block]
          exact ⟨_, _, rfl, rfl, rfl, rfl, rfl, List.nil_prefix⟩
  | block marker fence first body =>
      refine .inr ⟨Directive.block source marker first n body, ?_⟩
      rw [complete_block]
      refine ⟨_, _, rfl, rfl, rfl, rfl, rfl, ?_⟩
      simp [Directive.block]

end Mode

namespace Reader

variable (source : String)

/-- The state behind lines. -/
def behind (lines : List (List Char)) : Reader := lines.foldl (read source) start

theorem behind_concat (lines : List (List Char)) (line : List Char) :
    behind source (lines ++ [line]) = (behind source lines).read source line := by
  simp [behind]

theorem count_behind (lines : List (List Char)) : (behind source lines).count = lines.length := by
  induction lines using List.reverseRecOn with
  | nil => rfl
  | append_singleton lines line ih =>
      rw [behind_concat, List.length_append, ← ih]
      rfl

theorem fence?_behind (lines : List (List Char)) :
    (behind source lines).mode.fence? = lines.foldl Fence.through none := by
  induction lines using List.reverseRecOn with
  | nil => rfl
  | append_singleton lines line ih =>
      rw [behind_concat, List.foldl_append, ← ih]
      exact Mode.fence?_step source _ line _

/-- The automaton is outside of blocks if every block that it has entered is closed. -/
theorem fence?_behind_eq_none_iff (lines : List (List Char)) :
    (behind source lines).mode.fence? = none ↔
      ∀ block ∈ Fence.entered lines, ∃ line ∈ block.2, block.1.closedBy line = true := by
  rw [fence?_behind]
  exact Fence.foldl_through_eq_none_iff lines

/-- A pending marker stands on the last line that is not blank. -/
theorem exists_of_pending {lines : List (List Char)} {marker : Marker} {first : Nat}
    (h : (behind source lines).mode = .pending marker first) :
    ∃ line, (lines.filter fun line => !Text.allBlank line).getLast? = some line ∧
      Marker.read? line = some marker := by
  induction lines using List.reverseRecOn with
  | nil => cases h
  | append_singleton lines line ih =>
      rw [behind_concat] at h
      obtain ⟨blank, before⟩ | ⟨filled, read⟩ := Mode.pending_of_step source _ h
      · obtain ⟨last, found, read⟩ := ih before
        exact ⟨last, by simpa [blank] using found, read⟩
      · exact ⟨line, by simp [filled], read⟩

theorem scan_eq_finish (lines : List (List Char)) :
    scan source 1 lines = (behind source lines).finish source := by
  rw [behind, finish_foldl_read]
  exact Mode.scan_eq_complete source 0 rfl _

/-- Behind some first lines, the scan goes on from the state in which they leave the automaton. -/
theorem scan_append (front rest : List (List Char)) :
    scan source 1 (front ++ rest) = (behind source front).found ++
      (behind source front).mode.complete source front.length rest := by
  have onward : behind source (front ++ rest) = rest.foldl (read source) (behind source front) :=
    List.foldl_append
  rw [scan_eq_finish, onward, finish_foldl_read, count_behind]

end Reader

variable {p : String} (source : String)

theorem ofText_eq_finish_behind (text : String) :
    ofText text source = (Reader.behind source (Text.lines text.toList)).finish source :=
  Reader.scan_eq_finish source _

/-- Behind a text that ends its last line, the lines of the appended text are cut on their own. -/
theorem lines_append_of_ended (ended : p.toList.getLast?.all (· == '\n') = true) (q : String) :
    Text.lines (p ++ q).toList = Text.lines p.toList ++ Text.lines q.toList := by
  rw [String.toList_append]
  apply Text.lines_append
  intro c last
  obtain rfl : c = '\n' := by simpa [last] using ended
  rfl

/-- Behind a text that ends its last line, the lines of the appended text are read. -/
theorem ofText_append_eq (ended : p.toList.getLast?.all (· == '\n') = true) (q : String) :
    let reader := Reader.behind source (Text.lines p.toList)
    ofText (p ++ q) source =
      reader.found ++ reader.mode.complete source reader.count (Text.lines q.toList) := by
  intro reader
  rw [ofText, lines_append_of_ended ended, Reader.scan_append, ← Reader.count_behind source]

/-- Appended text leaves all directives but the last one as they are, and continues that one. -/
theorem continued_ofText_append (ended : p.toList.getLast?.all (· == '\n') = true) (q : String) :
    let before := ofText p source
    let after := ofText (p ++ q) source
    before.length ≤ after.length ∧
      (∀ i, i + 1 < before.length → after[i]? = before[i]?) ∧
      ∀ last, before.getLast? = some last →
        ∃ grown, after[before.length - 1]? = some grown ∧ last.ContinuedBy grown := by
  intro before after
  let reader := Reader.behind source (Text.lines p.toList)
  have whole : before = reader.found ++ reader.mode.close source reader.count :=
    ofText_eq_finish_behind source p
  have longer : after =
      reader.found ++ reader.mode.complete source reader.count (Text.lines q.toList) :=
    ofText_append_eq source ended q
  obtain none | ⟨last, grown, later, one, more, continued⟩ :=
    Mode.close_cases source reader.count reader.mode (Text.lines q.toList)
  · rw [none, List.append_nil] at whole
    rw [← whole] at longer
    refine ⟨?_, ?_, ?_⟩
    · rw [longer, List.length_append]
      exact Nat.le_add_right ..
    · intro i inside
      rw [longer]
      exact List.getElem?_append_left (Nat.lt_of_succ_lt inside)
    · intro last found
      refine ⟨last, ?_, .refl last⟩
      rw [List.getLast?_eq_getElem?] at found
      obtain ⟨inside, -⟩ := List.getElem?_eq_some_iff.mp found
      rw [longer, List.getElem?_append_left inside, found]
  · rw [one] at whole
    rw [more] at longer
    refine ⟨?_, ?_, ?_⟩
    · simp [whole, longer]
    · intro i inside
      have early : i < reader.found.length := by simpa [whole] using inside
      rw [whole, longer, List.getElem?_append_left early, List.getElem?_append_left early]
    · intro other found
      obtain rfl : last = other := by simpa [whole] using found
      exact ⟨grown, by simp [whole, longer], continued⟩

/-- A document that ends inside of a block. -/
def openDocument : String :=
  "<!-- deploy-doc pre-install -->\n<!-- deploy-doc run-tests -->\n```\nmake\n"

/-- The open block goes on with the lines up to its fence. -/
theorem continued_ofText_append_openDocument :
    ∃ grown, (ofText (openDocument ++ "make test\n```\n") "open.md")[1]? = some grown ∧
      ContinuedBy ⟨"run-tests", [], "open.md", ⟨3, 4⟩, "make\n"⟩ grown := by
  have ended : openDocument.toList.getLast?.all (· == '\n') = true := by decide
  have before : ofText openDocument "open.md" =
      [⟨"pre-install", [], "open.md", ⟨1, 1⟩, ""⟩,
        ⟨"run-tests", [], "open.md", ⟨3, 4⟩, "make\n"⟩] := by decide +kernel
  have continued := (continued_ofText_append "open.md" ended "make test\n```\n").2.2
  rw [before] at continued
  exact continued _ rfl

/-- If every block that a text enters is closed and its last line that is not blank is no marker,
the directives of an appended text are those that it has alone, behind the lines of the first. -/
theorem ofText_append (ended : p.toList.getLast?.all (· == '\n') = true)
    (closed : ∀ block ∈ Fence.entered (Text.lines p.toList),
      ∃ line ∈ block.2, block.1.closedBy line = true)
    (unmarked : ∀ line, ((Text.lines p.toList).filter fun line => !Text.allBlank line).getLast? =
      some line → Marker.read? line = none) (q : String) :
    ofText (p ++ q) source =
      ofText p source ++ (ofText q source).map (shift (Text.lines p.toList).length) := by
  have idle : (Reader.behind source (Text.lines p.toList)).mode = .idle := by
    have outside := (Reader.fence?_behind_eq_none_iff source (Text.lines p.toList)).mpr closed
    cases mode : (Reader.behind source (Text.lines p.toList)).mode with
    | idle => rfl
    | pending marker first =>
        obtain ⟨line, last, read⟩ := Reader.exists_of_pending source mode
        simp [unmarked line last] at read
    | literal fence => simp [mode, Mode.fence?] at outside
    | block marker fence first body => simp [mode, Mode.fence?] at outside
  have alone : ofText q source = Mode.idle.complete source 0 (Text.lines q.toList) :=
    Mode.scan_eq_complete source 0 rfl _
  have moved := Mode.complete_shift source 0 (Text.lines p.toList).length .idle
    (Text.lines q.toList)
  rw [Nat.zero_add] at moved
  rw [ofText_append_eq source ended, ofText_eq_finish_behind, Reader.finish, idle,
    Reader.count_behind, alone, ← moved, Mode.close, List.append_nil]
  rfl

/-- A document whose blocks are closed, one of them a plain block that shows a marker. -/
def closedDocument : String :=
  "<!-- deploy-doc pre-install -->\n\n```sh\nmake\n```\n~~~\n<!-- deploy-doc run-tests -->\n~~~\n\n"

/-- The directive of the appended text is found nine lines further on. -/
theorem ofText_append_closedDocument :
    ofText (closedDocument ++ "<!-- deploy-doc run-tests -->\n```\nmake test\n") "closed.md" =
      [⟨"pre-install", [], "closed.md", ⟨3, 5⟩, "make\n"⟩,
        ⟨"run-tests", [], "closed.md", ⟨11, 12⟩, "make test\n"⟩] := by
  have ended : closedDocument.toList.getLast?.all (· == '\n') = true := by decide
  have closed : ∀ block ∈ Fence.entered (Text.lines closedDocument.toList),
      ∃ line ∈ block.2, block.1.closedBy line = true := by decide +kernel
  have unmarked : ∀ line, ((Text.lines closedDocument.toList).filter fun line =>
      !Text.allBlank line).getLast? = some line → Marker.read? line = none := by
    intro line last
    have fence : ((Text.lines closedDocument.toList).filter fun line =>
        !Text.allBlank line).getLast? = some "~~~\n".toList := by decide +kernel
    rw [fence] at last
    cases last
    decide
  rw [ofText_append "closed.md" ended closed unmarked]
  decide +kernel

end Directive

end Runbook

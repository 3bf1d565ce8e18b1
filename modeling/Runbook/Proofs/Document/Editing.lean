import Runbook.Proofs.Document.Appending
import Runbook.Proofs.Document.Span

/-!
# Editing a block

The content of a closed block of a directive is replaced by another text that ends its last line and
holds no line that closes the block. The lines before the block leave the automaton in the same
mode, and the line that closes the block is the first one that closes it in both texts, so that the
lines behind it are read alike. Only the directive of the block has another content and another
end, and the directives behind it are moved.
-/

namespace Runbook

namespace Directive

theorem shift_shift (j k : Int) (directive : Directive) :
    (directive.shift j).shift k = directive.shift (j + k) := by
  simp [shift, Span.shift, Int.add_assoc]

namespace Mode

variable (source : String) (n : Nat)

/-- Where nothing is open, it makes no difference to the directives but for their places how many
lines were read before. -/
theorem complete_idle_move (m : Nat) (lines : List (List Char)) :
    complete source n .idle lines =
      (complete source m .idle lines).map (Directive.shift ((n : Int) - m)) := by
  have fromStart (k : Nat) :
      complete source k .idle lines = (complete source 0 .idle lines).map (Directive.shift k) := by
    rw [← complete_shift, Nat.zero_add]
    rfl
  have total : (m : Int) + (n - m) = n := by omega
  rw [fromStart n, fromStart m, List.map_map]
  refine List.map_congr_left fun directive _ => ?_
  rw [Function.comp_apply, shift_shift, total]

variable {source n}

/-- Where nothing is open, the directives start on later lines. -/
theorem lt_first_of_mem_complete {lines : List (List Char)} {directive : Directive}
    (mem : directive ∈ complete source n .idle lines) : n < directive.span.first := by
  rw [← scan_eq_complete source n rfl] at mem
  have placed := (within_scan source (n + 1) lines directive mem).le_first
  omega

/-- A directive starts on a line that opens a fence only if a marker is pending before it. -/
theorem exists_pending_of_mem_complete {mode : Mode} {opening : List Char} {fence : Fence}
    (opens : Fence.opening? opening = some fence)
    (early : ∀ directive ∈ mode.close source n, directive.span.first ≤ n)
    {inner : List (List Char)} {directive : Directive}
    (mem : directive ∈ mode.complete source n (opening :: inner))
    (place : directive.span.first = n + 1) : ∃ marker first, mode = .pending marker first := by
  cases mode with
  | pending marker first => exact ⟨marker, first, rfl⟩
  | idle =>
      rw [complete_idle_cons source n opens, complete_literal] at mem
      have later := lt_first_of_mem_complete mem
      omega
  | literal outer =>
      rw [complete_literal] at mem
      have later := lt_first_of_mem_complete mem
      omega
  | block marker outer first body =>
      have before : first ≤ n := by simpa [close, Directive.block] using early
      rw [complete_block, List.mem_cons] at mem
      obtain rfl | mem := mem
      · simp only [Directive.block] at place
        omega
      · have later := lt_first_of_mem_complete mem
        omega

end Mode

section Lines

variable {source : String} {front : List (List Char)}

/-- What the automaton has found or holds behind some lines starts on one of them. -/
theorem first_le_of_mem_finish {directive : Directive}
    (mem : directive ∈ (Reader.behind source front).finish source) :
    directive.span.first ≤ front.length := by
  rw [← Reader.scan_eq_finish] at mem
  obtain ⟨-, -, first_le_last, last_lt⟩ := within_scan source 1 front directive mem
  omega

variable {opening : List Char} {fence : Fence} (opens : Fence.opening? opening = some fence)
include opens

/-- The block of a marker that is pending before its opening line stands between the directives that
were found before and those behind the block. -/
theorem scan_of_pending {marker : Marker} {first : Nat}
    (pending : (Reader.behind source front).mode = .pending marker first)
    (inner : List (List Char)) :
    let body := fence.body inner
    let closing := if (fence.afterBody inner).isEmpty then 0 else 1
    scan source 1 (front ++ opening :: inner) = (Reader.behind source front).found ++
      block source marker (front.length + 1) (front.length + 1 + body.length + closing) body ::
        Mode.idle.complete source (front.length + 1 + body.length + 1)
          (inner.drop (body.length + 1)) := by
  rw [Reader.scan_append, pending, Mode.complete_pending_cons source front.length opens,
    Mode.complete_block, List.nil_append]

/-- A directive that starts on a line that opens a fence has the block of a pending marker. -/
theorem exists_pending_of_mem_scan {inner : List (List Char)} {directive : Directive}
    (mem : directive ∈ scan source 1 (front ++ opening :: inner))
    (place : directive.span.first = front.length + 1) :
    ∃ marker first, (Reader.behind source front).mode = .pending marker first := by
  rw [Reader.scan_append, List.mem_append] at mem
  obtain found | later := mem
  · have early := first_le_of_mem_finish (List.mem_append_left _ found)
    omega
  · apply Mode.exists_pending_of_mem_complete opens ?_ later place
    intro held mem
    apply first_le_of_mem_finish
    rw [Reader.finish, Reader.count_behind]
    exact List.mem_append_right _ mem

/-- It is the directive of that block. -/
theorem eq_block_of_mem_scan {marker : Marker} {first : Nat}
    (pending : (Reader.behind source front).mode = .pending marker first)
    {inner : List (List Char)} {directive : Directive}
    (mem : directive ∈ scan source 1 (front ++ opening :: inner))
    (place : directive.span.first = front.length + 1) :
    let body := fence.body inner
    let closing := if (fence.afterBody inner).isEmpty then 0 else 1
    directive =
      block source marker (front.length + 1) (front.length + 1 + body.length + closing) body := by
  rw [scan_of_pending opens pending, List.mem_append, List.mem_cons] at mem
  obtain found | same | later := mem
  · have early := first_le_of_mem_finish (List.mem_append_left _ found)
    omega
  · exact same
  · have late := Mode.lt_first_of_mem_complete later
    omega

section Divided

variable {inside : List (List Char)} {closing : List Char} {marker : Marker} {first : Nat}
  (pending : (Reader.behind source front).mode = .pending marker first)
  (unclosed : ∀ line ∈ inside, fence.closedBy line = false)
  (closed : fence.closedBy closing = true)
include pending unclosed closed

/-- The block of a pending marker ends with the first line that closes it. -/
theorem scan_of_closed (later : List (List Char)) :
    scan source 1 (front ++ opening :: (inside ++ closing :: later)) =
      (Reader.behind source front).found ++
        block source marker (front.length + 1) (front.length + 1 + inside.length + 1) inside ::
          Mode.idle.complete source (front.length + 1 + inside.length + 1) later := by
  have behind : (inside ++ closing :: later).drop (inside.length + 1) = later := by
    rw [← List.drop_drop, List.drop_left, List.drop_one, List.tail_cons]
  simp only [scan_of_pending opens pending, Fence.body_append_cons unclosed closed,
    Fence.afterBody_append_cons unclosed closed, behind]
  rfl

end Divided

end Lines

/-- A content that consists of the first lines of a text is cut into these lines. -/
theorem lines_of_content {fence : Fence} {c s : List Char}
    (content : (fence.body (Text.lines (c ++ s))).flatten = c) :
    Text.lines c = fence.body (Text.lines (c ++ s)) ∧
      Text.lines s = fence.afterBody (Text.lines (c ++ s)) := by
  have parts := fence.body_append_afterBody (Text.lines (c ++ s))
  obtain ⟨front, back⟩ := Text.lines_flatten_of_append parts.symm
  have whole : c ++ (fence.afterBody (Text.lines (c ++ s))).flatten = c ++ s := by
    calc
      c ++ (fence.afterBody (Text.lines (c ++ s))).flatten
          = (fence.body (Text.lines (c ++ s)) ++
              fence.afterBody (Text.lines (c ++ s))).flatten := by
            rw [List.flatten_append, content]
      _ = c ++ s := by rw [parts, Text.flatten_lines]
  have rest := List.append_cancel_left whole
  rw [content] at front
  rw [rest] at back
  exact ⟨front, back⟩

/-- A document in three parts has a directive with a closed block: `p` ends with the line that opens
the block, `c` is its content, and `s` starts with the line that closes it. -/
structure Encloses (source : String) (fence : Fence) (p c s : String) (directive : Directive) :
    Prop where
  mem : directive ∈ ofText (p ++ c ++ s) source
  ended : p.toList.getLast? = some '\n'
  opened : ∃ line, (Text.lines p.toList).getLast? = some line ∧ Fence.opening? line = some fence
  first_eq : directive.span.first = (Text.lines p.toList).length
  content_eq : directive.content = c
  closed : ∃ line, (Text.lines s.toList).head? = some line ∧ fence.closedBy line = true

/-- A content that a block may have in front of the text that closes it. -/
structure Admits (fence : Fence) (s t : String) : Prop where
  lines_append : Text.lines (t ++ s).toList = Text.lines t.toList ++ Text.lines s.toList
  unclosed : ∀ line ∈ Text.lines t.toList, fence.closedBy line = false

/-- The number of the line that closes a block whose opening line ends the text `p`. -/
def closingLine (p t : String) : Nat := (Text.lines p.toList).length + (Text.lines t.toList).length + 1

/-- A marker is pending before the block, and its block is any content that is admitted there, with
the same directives found before it and the same lines left behind it. -/
theorem Encloses.exists_marker {source : String} {fence : Fence} {p c s : String}
    {directive : Directive} (enclosed : Encloses source fence p c s directive) :
    ∃ marker found later,
      let written (t : String) :=
        block source marker (Text.lines p.toList).length (closingLine p t) (Text.lines t.toList)
      Admits fence s c ∧ directive = written c ∧ ∀ t, Admits fence s t →
        ofText (p ++ t ++ s) source =
          found ++ written t :: Mode.idle.complete source (closingLine p t) later := by
  obtain ⟨mem, ended, ⟨opening, last, opens⟩, place, content, ⟨closing, head, closed⟩⟩ := enclosed
  obtain ⟨front, lines_p⟩ := List.getLast?_eq_some_iff.mp last
  obtain ⟨later, lines_s⟩ := List.head?_eq_some_iff.mp head
  have height : (Text.lines p.toList).length = front.length + 1 := by simp [lines_p]
  have cut (t : String) : ofText (p ++ t ++ s) source =
      scan source 1 (front ++ opening :: Text.lines (t ++ s).toList) := by
    rw [ofText, String.append_assoc, lines_append_of_ended (by simp [ended]), lines_p,
      List.append_assoc, List.singleton_append]
  rw [cut] at mem
  rw [height] at place
  obtain ⟨marker, first, pending⟩ := exists_pending_of_mem_scan opens mem place
  have same := eq_block_of_mem_scan opens pending mem place
  -- The content joins the lines up to the closing one, so that it is cut into these lines again.
  have joined := congrArg String.toList ((congrArg Directive.content same).symm.trans content)
  rw [block, String.toList_ofList, String.toList_append] at joined
  obtain ⟨inside, behind⟩ := lines_of_content joined
  rw [← String.toList_append] at inside behind
  have admitted : Admits fence s c := by
    constructor
    · rw [inside, behind, Fence.body_append_afterBody]
    · rw [inside]
      exact fun line mem => Fence.closedBy_of_mem_body mem
  rw [← inside, ← behind, lines_s, ← height] at same
  refine ⟨marker, (Reader.behind source front).found, later, admitted, ?_, ?_⟩
  · exact same
  · intro t admits
    rw [cut, admits.lines_append, lines_s, scan_of_closed opens pending admits.unclosed closed,
      ← height]
    rfl

/-- Another content of a closed block that ends its last line and holds no line that closes the
block changes the content and the end of its directive, and moves the directives behind it. -/
theorem ofText_replace {source : String} {fence : Fence} {p c s : String} {directive : Directive}
    (enclosed : Encloses source fence p c s directive) {c' : String}
    (ended : c'.toList.getLast?.all (· == '\n') = true)
    (unclosed : ∀ line ∈ Text.lines c'.toList, fence.closedBy line = false) :
    let k : Int := (Text.lines c'.toList).length - (Text.lines c.toList).length
    ∃ before after,
      ofText (p ++ c ++ s) source = before ++ directive :: after ∧
        ofText (p ++ c' ++ s) source =
          before ++ { directive with
            span := ⟨directive.span.first, directive.span.last + k⟩
            content := c' } :: after.map (shift k) := by
  intro k
  obtain ⟨marker, found, later, admitted, rfl, read⟩ := enclosed.exists_marker
  have admits : Admits fence s c' := ⟨lines_append_of_ended ended s, unclosed⟩
  refine ⟨found, _, read c admitted, ?_⟩
  have move : (closingLine p c' : Int) - closingLine p c = k := by
    simp only [closingLine, k]
    omega
  have last : (closingLine p c' : Int) = closingLine p c + k := by omega
  rw [read c' admits, Mode.complete_idle_move source (closingLine p c') (closingLine p c), move]
  simp [block, last]

/-- The text of a document up to the line that opens its second block. -/
def guideFront : String :=
  "<!-- deploy-doc require-env HOME -->\n<!-- deploy-doc run-tests -->\n\n~~~sh\n"

/-- The text of a document from the line that closes its second block. -/
def guideBack : String := "~~~\n<!-- deploy-doc cleanup -->\n```\nmake clean\n```\n"

/-- A content that looks like a marker with a block of its own is content still. -/
theorem ofText_replace_guide :
    ofText (guideFront ++ "```\n<!-- deploy-doc run-tests -->\n\n" ++ guideBack) "guide.md" =
      [⟨"require-env", ["HOME"], "guide.md", ⟨1, 1⟩, ""⟩,
        ⟨"run-tests", [], "guide.md", ⟨4, 8⟩, "```\n<!-- deploy-doc run-tests -->\n\n"⟩,
        ⟨"cleanup", [], "guide.md", ⟨10, 12⟩, "make clean\n"⟩] := by
  have parsed : ofText (guideFront ++ "make test\n" ++ guideBack) "guide.md" =
      [⟨"require-env", ["HOME"], "guide.md", ⟨1, 1⟩, ""⟩,
        ⟨"run-tests", [], "guide.md", ⟨4, 6⟩, "make test\n"⟩,
        ⟨"cleanup", [], "guide.md", ⟨8, 10⟩, "make clean\n"⟩] := by decide +kernel
  have enclosed : Encloses "guide.md" ⟨.tilde, 3⟩ guideFront "make test\n" guideBack
      ⟨"run-tests", [], "guide.md", ⟨4, 6⟩, "make test\n"⟩ := by
    constructor
    · simp [parsed]
    · decide
    · exact ⟨"~~~sh\n".toList, by decide +kernel, by decide⟩
    · decide +kernel
    · rfl
    · exact ⟨"~~~\n".toList, by decide +kernel, by decide⟩
  have ended : "```\n<!-- deploy-doc run-tests -->\n\n".toList.getLast?.all (· == '\n') = true := by
    decide
  have unclosed : ∀ line ∈ Text.lines "```\n<!-- deploy-doc run-tests -->\n\n".toList,
      Fence.closedBy ⟨.tilde, 3⟩ line = false := by decide +kernel
  obtain ⟨before, after, old, new⟩ := ofText_replace enclosed ended unclosed
  rw [parsed] at old
  obtain ⟨rfl, rfl⟩ : before = [⟨"require-env", ["HOME"], "guide.md", ⟨1, 1⟩, ""⟩] ∧
      after = [⟨"cleanup", [], "guide.md", ⟨8, 10⟩, "make clean\n"⟩] := by
    rcases before with _ | ⟨_, _ | ⟨_, _ | ⟨_, _⟩⟩⟩ <;> simp_all
  rw [new]
  decide +kernel

end Directive

end Runbook

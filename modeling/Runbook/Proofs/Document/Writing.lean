import Runbook.Proofs.Document.Block
import Runbook.Proofs.Text.Lines

/-!
# Writing directives

Items are written as marker lines with fenced blocks behind them. Reading a written document gives
back the items in order, each with the place where it was written. The body of a block is any text
that ends its last line and holds no line that closes the fence: it may hold markers, shorter
fences, and fences of the other mark.
-/

namespace Runbook

/-- A nonempty text without blanks. -/
def Text.IsWord (s : String) : Prop := s.toList ≠ [] ∧ ∀ c ∈ s.toList, Text.isBlank c = false

instance : DecidablePred Text.IsWord := fun s =>
  decidable_of_iff (s.toList ≠ [] ∧ s.toList.all (!Text.isBlank ·) = true) (by simp [Text.IsWord])

/-- A list of characters is inline if a run through it finds no line break. -/
theorem Text.inline_of_all {s : List Char} (h : s.all (!isLineBreak ·) = true) :
    ∀ c ∈ s, isLineBreak c = false := by
  simpa using h

/-- Parts joined by blanks with one more in front: each part has a blank before it. -/
theorem Text.cons_joinWith_blank (part : List Char) (parts : List (List Char)) :
    ' ' :: joinWith [' '] (part :: parts) = (part :: parts).flatMap (' ' :: ·) := by
  induction parts generalizing part with
  | nil => simp [joinWith]
  | cons next parts ih => simp [joinWith, ih next]

namespace Marker

/-- The words of the comment that a marker is written as. -/
def parts (marker : Marker) : List (List Char) :=
  token :: (marker.kind :: marker.params).map String.toList

/-- The comment that a marker is written as: a blank divides the words from each other and from the
marks of the comment. -/
def comment (marker : Marker) : List Char :=
  ['<', '!', '-', '-', ' '] ++ Text.joinWith [' '] marker.parts ++ [' ', '-', '-', '>']

/-- The line that a marker is written as. -/
def line (marker : Marker) : List Char := marker.comment ++ ['\n']

theorem comment_eq (marker : Marker) :
    marker.comment = '<' :: '!' :: '-' :: '-' ::
      (marker.parts.flatMap (' ' :: ·) ++ [' '] ++ ['-', '-', '>']) := by
  have joined : ' ' :: Text.joinWith [' '] marker.parts = marker.parts.flatMap (' ' :: ·) :=
    Text.cons_joinWith_blank ..
  rw [← joined, comment]
  simp

theorem commentBody?_comment (marker : Marker) :
    commentBody? marker.comment = some (marker.parts.flatMap (' ' :: ·) ++ [' ']) := by
  rw [comment_eq, commentBody?, List.reverse_append]
  simp

/-- A written marker opens no fence. -/
theorem opening?_line (marker : Marker) : Fence.opening? marker.line = none := by
  rw [line, comment_eq]
  rfl

theorem allBlank_line (marker : Marker) : Text.allBlank marker.line = false := by
  rw [line, comment_eq]
  rfl

section Words

variable {marker : Marker} (h : ∀ word ∈ marker.kind :: marker.params, Text.IsWord word)
include h

theorem isWord_parts :
    ∀ word ∈ marker.parts, word ≠ [] ∧ ∀ c ∈ word, Text.isBlank c = false := by
  rw [parts, List.forall_mem_cons, List.forall_mem_map]
  exact ⟨(by decide : Text.IsWord (String.ofList token)), h⟩

/-- A written marker is read back from its line. -/
theorem read?_line : read? marker.line = some marker := by
  have trimmed : Text.trim marker.line = marker.comment := by
    refine Text.trim_append (by decide) ?_ ?_ (by simp [comment])
    · intro c hc
      obtain rfl : '<' = c := by simpa [comment] using hc
      decide
    · intro c hc
      obtain rfl : '>' = c := by
        rw [comment, List.getLast?_append] at hc
        simpa using hc
      decide
  rw [read?, trimmed, commentBody?_comment]
  simp only [Text.words_flatMap (isWord_parts h)]
  simp [parts, Function.comp_def]

theorem inline_comment : ∀ c ∈ marker.comment, Text.isLineBreak c = false := by
  have unbroken : ∀ c, Text.isBlank c = false → Text.isLineBreak c = false := by
    intro c hc
    cases hb : Text.isLineBreak c with
    | false => rfl
    | true => simp [Text.isBlank_of_isLineBreak hb] at hc
  have fixed : ∀ c ∈ ['<', '!', '-', '>', ' '], Text.isLineBreak c = false :=
    Text.inline_of_all (by decide)
  intro c hc
  simp only [comment_eq, List.mem_cons, List.mem_append, List.mem_flatMap] at hc
  by_cases known : c ∈ ['<', '!', '-', '>', ' ']
  · exact fixed c known
  · obtain ⟨word, hw, hc⟩ : ∃ word ∈ marker.parts, c ∈ word := by
      simp only [List.mem_cons, List.not_mem_nil, or_false, not_or] at known
      simpa [known] using hc
    exact unbroken c ((isWord_parts h word hw).2 c hc)

end Words

end Marker

namespace Fence

/-- The marks of a fence. -/
def marks (fence : Fence) : List Char := List.replicate fence.length fence.mark.char

/-- A fence of at least three marks is read back with what stands behind it. -/
theorem split?_marks {fence : Fence} (long : 3 ≤ fence.length) {tail : List Char}
    (h : tail.head? ≠ some fence.mark.char) : split? (fence.marks ++ tail) = some (fence, tail) := by
  obtain ⟨mark, length⟩ := fence
  obtain ⟨n, rfl⟩ : ∃ n, length = n + 1 := Nat.exists_eq_add_of_le' (Nat.le_trans (by decide) long)
  have unspaced : (mark.char == ' ') = false := by cases mark <;> decide
  have known : FenceMark.ofChar? mark.char = some mark := by cases mark <;> decide
  have first : marks ⟨mark, n + 1⟩ ++ tail = mark.char :: (List.replicate n mark.char ++ tail) := by
    simp [marks, List.replicate_succ]
  have run : ∀ c ∈ marks ⟨mark, n + 1⟩, (c == mark.char) = true := by
    simp +contextual [marks]
  have taken : (marks ⟨mark, n + 1⟩ ++ tail).takeWhile (· == mark.char) = marks ⟨mark, n + 1⟩ := by
    rw [List.takeWhile_append_of_pos run]
    cases tail with
    | nil => simp
    | cons c tail => simp [show c ≠ mark.char by simpa using h]
  have left : (marks ⟨mark, n + 1⟩ ++ tail).dropWhile (· == mark.char) = tail := by
    rw [List.dropWhile_append_of_pos run]
    cases tail with
    | nil => rfl
    | cons c tail => simp [show c ≠ mark.char by simpa using h]
  rw [first] at taken left
  rw [first, split?]
  simp [afterMargin?, unspaced, known, taken, left]
  simpa [marks] using long

end Fence

/-- A block that can be written: its info text is on the line of the fence and not part of it, and
its body ends its last line and holds no line that closes the fence. -/
structure WrittenBlock where
  fence : Fence
  info : List Char
  body : List Char
  long : 3 ≤ fence.length
  inline : ∀ c ∈ info, Text.isLineBreak c = false
  apart : info.head? ≠ some fence.mark.char
  ended : body.getLast?.all Text.isLineBreak = true
  unclosed : ∀ line ∈ Text.lines body, fence.closedBy line = false

namespace WrittenBlock

variable (block : WrittenBlock)

/-- The line that opens a block. -/
def opening : List Char := block.fence.marks ++ block.info ++ ['\n']

/-- The line that closes a block. -/
def closing : List Char := block.fence.marks ++ ['\n']

/-- The lines of a block between its fences. -/
def inside : List (List Char) := Text.lines block.body

/-- The text of a block with its fences. -/
def text : List Char := block.opening ++ block.body ++ block.closing

theorem opening?_opening : Fence.opening? block.opening = some block.fence := by
  have apart : (block.info ++ ['\n']).head? ≠ some block.fence.mark.char := by
    have := block.apart
    cases h : block.info with
    | nil => cases block.fence.mark <;> decide
    | cons c info => simpa [h] using this
  rw [opening, List.append_assoc, Fence.opening?, Fence.split?_marks block.long apart]
  rfl

theorem closedBy_closing : block.fence.closedBy block.closing = true := by
  have apart : ['\n'].head? ≠ some block.fence.mark.char := by
    cases block.fence.mark <;> decide
  have blank : Text.allBlank ['\n'] = true := by decide
  simp [closing, Fence.closedBy, Fence.split?_marks block.long apart, blank]

theorem allBlank_opening : Text.allBlank block.opening = false := by
  have mark : Text.isBlank block.fence.mark.char = false := by
    cases block.fence.mark <;> decide
  have some : block.fence.length ≠ 0 := Nat.ne_of_gt (Nat.lt_of_lt_of_le (by decide) block.long)
  simp [opening, Fence.marks, Text.allBlank, mark, some]

theorem inline_marks : ∀ c ∈ block.fence.marks, Text.isLineBreak c = false := by
  intro c hc
  obtain rfl : c = block.fence.mark.char := List.eq_of_mem_replicate hc
  cases block.fence.mark <;> decide

/-- The lines of a written block are its opening line, the lines of its body, and its closing
line. -/
theorem lines_text (rest : List Char) :
    Text.lines (block.text ++ rest) =
      block.opening :: (block.inside ++ block.closing :: Text.lines rest) := by
  have first : ∀ c ∈ block.fence.marks ++ block.info, Text.isLineBreak c = false := by
    rw [List.forall_mem_append]
    exact ⟨block.inline_marks, block.inline⟩
  have last : ∀ c, block.body.getLast? = some c →
      Text.endsLine c (block.closing ++ rest) = true := by
    intro c hc
    have marked : (block.closing ++ rest).head? ≠ some '\n' := by
      obtain ⟨n, hn⟩ := Nat.exists_eq_add_of_le' (Nat.le_trans (by decide : 1 ≤ 3) block.long)
      rw [closing, Fence.marks, hn]
      cases block.fence.mark <;> simp [List.replicate_succ, FenceMark.char]
    have ended : Text.isLineBreak c = true := by simpa [hc] using block.ended
    rw [Text.endsLine, ended, beq_eq_false_iff_ne.mpr marked]
    simp
  have parts : block.text ++ rest =
      (block.fence.marks ++ block.info) ++ '\n' :: (block.body ++ (block.closing ++ rest)) := by
    simp [text, opening]
  have behind : block.closing ++ rest = block.fence.marks ++ '\n' :: rest := by simp [closing]
  rw [parts, Text.lines_line first, Text.lines_append last, behind,
    Text.lines_line block.inline_marks]
  rfl

theorem body_inside (rest : List (List Char)) :
    block.fence.body (block.inside ++ block.closing :: rest) = block.inside :=
  Fence.body_append_cons block.unclosed block.closedBy_closing rest

theorem afterBody_inside (rest : List (List Char)) :
    block.fence.afterBody (block.inside ++ block.closing :: rest) = block.closing :: rest :=
  Fence.afterBody_append_cons block.unclosed block.closedBy_closing rest

end WrittenBlock

/-- A marker of words, with the block that belongs to it if there is one. -/
structure WrittenItem where
  marker : Marker
  block : Option WrittenBlock
  words : ∀ word ∈ marker.kind :: marker.params, Text.IsWord word

namespace WrittenItem

/-- The text of an item: the line of its marker and the text of its block. -/
def text (item : WrittenItem) : List Char :=
  item.marker.line ++ (item.block.map WrittenBlock.text).getD []

/-- The number of lines of an item. -/
def height (item : WrittenItem) : Nat :=
  match item.block with
  | none => 1
  | some block => block.inside.length + 3

/-- The directive of an item whose marker stands on line `n`. -/
def directive (source : String) (n : Nat) (item : WrittenItem) : Directive :=
  match item.block with
  | none => ⟨item.marker.kind, item.marker.params, source, ⟨n, n⟩, ""⟩
  | some block =>
    ⟨item.marker.kind, item.marker.params, source, ⟨n + 1, n + block.inside.length + 2⟩,
      String.ofList block.body⟩

/-- The directives of items that are written one behind the other from line `n` on. -/
def directives (source : String) : Nat → List WrittenItem → List Directive
  | _, [] => []
  | n, item :: items =>
    item.directive source n :: directives source (n + item.height) items

/-- The text of items in order. -/
def write (items : List WrittenItem) : String := String.ofList (items.flatMap text)

theorem lines_text (item : WrittenItem) (rest : List Char) :
    Text.lines (item.text ++ rest) =
      item.marker.line :: Text.lines ((item.block.map WrittenBlock.text).getD [] ++ rest) := by
  have parts : item.text ++ rest =
      item.marker.comment ++ '\n' :: ((item.block.map WrittenBlock.text).getD [] ++ rest) := by
    simp [text, Marker.line]
  rw [parts, Text.lines_line (Marker.inline_comment item.words)]
  rfl

/-- Items in order start with no fence. -/
theorem fenceAhead?_items (items : List WrittenItem) :
    Directive.fenceAhead? (Text.lines (items.flatMap text)) = none := by
  cases items with
  | nil => rfl
  | cons item items =>
      rw [List.flatMap_cons, lines_text]
      simp [Directive.fenceAhead?, Marker.allBlank_line, Marker.opening?_line]

/-- A block stands right ahead of the marker before it. -/
theorem fenceAhead?_block (block : WrittenBlock) (rest : List Char) :
    Directive.fenceAhead? (Text.lines (block.text ++ rest)) =
      some (0, block.fence, block.inside ++ block.closing :: Text.lines rest) := by
  rw [block.lines_text]
  simp [Directive.fenceAhead?, block.allBlank_opening, block.opening?_opening]

/-- The first item is read as its directive, and reading goes on behind its last line. -/
theorem scan_item (source : String) (n : Nat) (item : WrittenItem) (items : List WrittenItem) :
    Directive.scan source n (Text.lines ((item :: items).flatMap text)) =
      item.directive source n ::
        Directive.scan source (n + item.height) (Text.lines (items.flatMap text)) := by
  rw [List.flatMap_cons, lines_text, Directive.scan]
  obtain ⟨marker, block, words⟩ := item
  simp only [Marker.opening?_line, Marker.read?_line words]
  cases block with
  | none =>
      have ahead := fenceAhead?_items items
      simp only [Option.map_none, Option.getD_none, List.nil_append]
      split
      · rfl
      · next h => simp [ahead] at h
  | some block =>
      have ahead := fenceAhead?_block block (items.flatMap text)
      simp only [Option.map_some, Option.getD_some]
      split
      · next h => simp [ahead] at h
      · next blanks fence inner h =>
          obtain ⟨rfl, rfl, rfl⟩ : 0 = blanks ∧ block.fence = fence ∧
              block.inside ++ block.closing :: Text.lines (items.flatMap text) = inner := by
            simpa [ahead] using h
          have content : String.ofList block.inside.flatten = String.ofList block.body := by
            rw [WrittenBlock.inside, Text.flatten_lines]
          have behind : (block.inside ++ block.closing :: Text.lines (items.flatMap text)).drop
              (block.inside.length + 1) = Text.lines (items.flatMap text) := by
            rw [← List.drop_drop, List.drop_left, List.drop_one, List.tail_cons]
          have next : n + 0 + 1 + block.inside.length + 2 = n + (block.inside.length + 3) := by
            omega
          simp only [block.body_inside, block.afterBody_inside, Directive.block, content, behind,
            next, directive, height]
          simp
          omega

theorem scan_write (source : String) (n : Nat) (items : List WrittenItem) :
    Directive.scan source n (Text.lines (items.flatMap text)) = directives source n items := by
  induction items generalizing n with
  | nil => rw [List.flatMap_nil, Text.lines, Directive.scan, directives]
  | cons item items ih => rw [scan_item, ih, directives]

/-- Reading undoes writing: every item is found, in order, at the lines where it was written. -/
theorem ofText_write (items : List WrittenItem) (source : String) :
    Directive.ofText (write items) source = directives source 1 items := by
  rw [Directive.ofText, write, String.toList_ofList, scan_write]

/-- A body may look like a marker with a block of its own. -/
example :
    write [
      ⟨⟨"require-env", ["HOME", "USER"]⟩, none, by decide⟩,
      ⟨⟨"run-tests", []⟩,
        some ⟨⟨.tilde, 4⟩, "sh".toList, "<!-- deploy-doc run-tests -->\n~~~\n```\n".toList,
          by decide, Text.inline_of_all (by decide), by decide, by decide, by decide⟩,
        by decide⟩] =
      "<!-- deploy-doc require-env HOME USER -->\n<!-- deploy-doc run-tests -->\n~~~~sh\n" ++
        "<!-- deploy-doc run-tests -->\n~~~\n```\n~~~~\n" := by
  decide

end WrittenItem

end Runbook

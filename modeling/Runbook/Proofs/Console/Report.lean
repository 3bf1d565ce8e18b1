import Runbook.Proofs.Console.Message
import Runbook.Proofs.Document.Span

/-!
# Reports as text

Failures, successes and the table of steps can be reported as text whatever they are about, as what
they are about is escaped. A message that is given as marked text can be reported if it has no
opening bracket.
-/

namespace Runbook

namespace Console

section Marks

/-- Whether a character cannot start a tag or the backslashes before one. -/
def isPlain (c : Char) : Bool := c != '\\' && c != '['

/-- The parts of plain characters in front of another text. -/
theorem parts_plain_append {Q : List Part → Prop}
    (plain : ∀ c parts, Q parts → Q (prependPlain c parts)) {s : List Char}
    (h : s.all isPlain = true) {t : List Char} (rest : Q (parts t)) : Q (parts (s ++ t)) := by
  induction s with
  | nil => exact rest
  | cons c s ih =>
      obtain ⟨⟨backslash, bracket⟩, others⟩ : (c ≠ '\\' ∧ c ≠ '[') ∧ s.all isPlain = true := by
        simpa [isPlain] using h
      rw [List.cons_append, parts_cons (tagAt?_cons_of_ne backslash bracket _)]
      exact plain c _ (ih others)

theorem parts_opening {body : List Char} (tag : IsTagBody body) (rest : List Char) :
    parts ('[' :: (body ++ ']' :: rest)) = .tag 0 body :: parts rest :=
  parts_of_tag (tagAt?_tag tag 0 rest)

theorem isTagBody_of_all {c : Char} {rest : List Char} (starts : startsTag c = true)
    (plain : rest.all (!isBracket ·) = true) : IsTagBody (c :: rest) :=
  ⟨c, rest, rfl, starts, by simpa using plain⟩

/-- The words in the brackets of the messages are marks. -/
theorem isMark_of_mem {word : String} (h : word ∈ ["red", "green", "cyan", "bold"]) :
    IsMark word.toList word := by
  simp only [List.mem_cons, List.not_mem_nil, or_false] at h
  obtain rfl | rfl | rfl | rfl := h
  all_goals exact
    { tag := isTagBody_of_all (by decide) (by decide)
      unslashed := by decide
      whole := by decide
      trimmed := by decide
      style := rfl
      passive := by decide +kernel
      shaded := ⟨_, rfl⟩ }

/-- An escaped text can be shown behind an opening mark and before the closing one. -/
theorem StyledText.exists_ofMarkup_within {body lead : List Char} {name : String}
    (mark : IsMark body name) (plain : lead.all isPlain = true) (s : List Char) :
    ∃ text, ofMarkup
      ('[' :: (body ++ ']' :: (lead ++ (escape s ++ '[' :: ('/' :: body ++ [']']))))) =
        .ok text := by
  have closed : HasOneTag ('/' :: body) (parts (lead ++ _)) :=
    parts_plain_append (fun c _ h => h.prependPlain c) plain
      (hasOneTag_parts_escape mark.closing s)
  have whole := parts_opening mark.tag (lead ++ (escape s ++ '[' :: ('/' :: body ++ [']'])))
  exact exists_ofMarkup_of_mark mark (whole.trans (List.nil_append _).symm) (by simp) closed

/-- A text can be shown behind marked words on a line of their own if it has no opening bracket. -/
theorem StyledText.exists_ofMarkup_behind {body lead behind : List Char} {name : String}
    (mark : IsMark body name) (plain : lead.all isPlain = true) (unmarked : '[' ∉ behind) :
    ∃ text, ofMarkup
      ('\n' :: '[' :: (body ++ ']' :: (lead ++ '[' :: ('/' :: body ++ ']' :: behind)))) =
        .ok text := by
  have last : parts ('[' :: ('/' :: body ++ ']' :: behind)) = _ := parts_opening mark.closing behind
  have closed : HasOneTag ('/' :: body) (parts (lead ++ '[' :: ('/' :: body ++ ']' :: behind))) :=
    parts_plain_append (fun c _ h => h.prependPlain c) plain
      ⟨[], 0, _, last, by simp, isText_parts_of_not_mem unmarked⟩
  have untagged := tagAt?_cons_of_ne (show '\n' ≠ '\\' by decide) (by decide)
    ('[' :: (body ++ ']' :: (lead ++ '[' :: ('/' :: body ++ ']' :: behind))))
  have framed (rest : List Part) : prependPlain '\n' (.tag 0 body :: rest) =
      [.plain ['\n']] ++ .tag 0 body :: rest := rfl
  have whole := parts_cons untagged
  rw [parts_opening mark.tag, framed] at whole
  exact exists_ofMarkup_of_mark mark whole (by simp [Part.isText]) closed

end Marks

/-- The message of a rehearsal, whose one tag is a mark. -/
theorem StyledText.exists_ofMarkup_rehearsal :
    ∃ text, ofMarkup "[cyan][DRY RUN][/cyan] Would run:".toList = .ok text := by
  have found : parts "[cyan][DRY RUN][/cyan] Would run:".toList =
      [] ++ .tag 0 "cyan".toList :: ([.plain "[DRY RUN]".toList] ++
        .tag 0 ('/' :: "cyan".toList) :: [.plain " Would run:".toList]) := by decide +kernel
  have mark : IsMark "cyan".toList "cyan" := isMark_of_mem (by simp)
  exact exists_ofMarkup_of_mark mark found (by simp) ⟨_, _, _, rfl, by decide, by decide⟩

/-- The message behind a plan that was written. -/
def writtenMessage (path : String) : String := "\n[bold]JSON plan written to:[/bold] " ++ path

/-- A path without an opening bracket can be shown. -/
theorem StyledText.exists_ofMarkup_written {path : String} (unmarked : '[' ∉ path.toList) :
    ∃ text, ofMarkup (writtenMessage path).toList = .ok text := by
  have mark : IsMark "bold".toList "bold" := isMark_of_mem (by simp)
  have plain : "JSON plan written to:".toList.all isPlain = true := by decide +kernel
  have behind : '[' ∉ ' ' :: path.toList := by simpa using unmarked
  have front : "\n[bold]JSON plan written to:[/bold] ".toList = '\n' :: '[' :: ("bold".toList ++
      ']' :: ("JSON plan written to:".toList ++ '[' :: ('/' :: "bold".toList ++ [']', ' ']))) := by
    decide +kernel
  have characters : (writtenMessage path).toList = _ := String.toList_append
  simp only [front, List.cons_append, List.append_assoc, List.nil_append] at characters
  rw [characters]
  exact exists_ofMarkup_behind mark plain behind

end Console

namespace Reporter

open Console

variable (reporter : Reporter)

theorem exists_printWithin {body : List Char} {name before after : String}
    (mark : IsMark body name) (lead : List Char) (plain : lead.all isPlain = true)
    (opening : before.toList = '[' :: (body ++ ']' :: lead))
    (closing : after.toList = '[' :: ('/' :: body ++ [']'])) (message : String) :
    ∃ text, reporter.printWithin before message after = .ok text := by
  obtain ⟨text, shown⟩ := StyledText.exists_ofMarkup_within mark plain message.toList
  have characters : (before ++ String.ofList (escape message.toList) ++ after).toList =
      '[' :: (body ++ ']' ::
        (lead ++ (escape message.toList ++ '[' :: ('/' :: body ++ [']'])))) := by
    simp [opening, closing]
  refine ⟨printed reporter.cells ((text.wrap reporter.cells .fold).map StyledText.pieces), ?_⟩
  rw [printWithin, markedText, characters, shown]
  rfl

/-- A failure can be reported. -/
theorem exists_error (message : String) (data : List (String × Json)) :
    ∃ text, reporter.error message data = .ok text := by
  unfold error
  split
  · exact ⟨_, rfl⟩
  · have mark : IsMark "red".toList "red" := isMark_of_mem (by simp)
    exact reporter.exists_printWithin mark "Error: ".toList (by decide) (by decide) (by decide)
      message

/-- A success can be reported. -/
theorem exists_success (message : String) (data : List (String × Json)) :
    ∃ text, reporter.success message data = .ok text := by
  unfold success
  split
  · exact ⟨_, rfl⟩
  · have mark : IsMark "green".toList "green" := isMark_of_mem (by simp)
    exact reporter.exists_printWithin mark [] rfl (by decide) (by decide) message

/-- A marked message can be reported if it can be shown. -/
theorem exists_print_of_shown {message : String}
    (shown : ∃ text, StyledText.ofMarkup message.toList = .ok text) :
    ∃ text, reporter.print message none = .ok text := by
  obtain ⟨text, shown⟩ := shown
  unfold print
  split
  · exact ⟨_, rfl⟩
  · rw [shown]
    exact ⟨_, rfl⟩

section Table

theorem bracket_not_mem_decimalDigits (n : Nat) : '[' ∉ decimalDigits n := by
  intro mem
  have digit : '['.isDigit = true := Nat.isDigit_of_mem_toDigits (by decide) (by decide) mem
  exact absurd digit (by decide)

theorem bracket_not_mem_decimalText (i : Int) : '[' ∉ (decimalText i).toList := by
  cases i with
  | ofNat n => simpa [decimalText] using bracket_not_mem_decimalDigits n
  | negSucc n => simpa [decimalText] using bracket_not_mem_decimalDigits (n + 1)

theorem bracket_not_mem_toString (n : Nat) : '[' ∉ (toString n).toList := by
  simpa [decimalDigits] using bracket_not_mem_decimalDigits n

theorem bracket_not_mem_name (phase : Phase) : '[' ∉ phase.name.toList := by
  cases phase <;> decide

/-- Each cell of the table of steps can be shown. -/
theorem exists_ofMarkup_of_mem_stepCells {result : StepResult} {cell : List Char}
    (h : cell ∈ stepCells result) : ∃ text, StyledText.ofMarkup cell = .ok text := by
  simp only [stepCells, List.mem_cons, List.not_mem_nil, or_false] at h
  obtain rfl | rfl | rfl | rfl := h
  · exact StyledText.exists_ofMarkup_of_not_mem (bracket_not_mem_name result.phase)
  · exact StyledText.exists_ofMarkup_escape result.step.toList
  · cases result.exitCode with
    | none => exact StyledText.exists_ofMarkup_of_not_mem (by decide)
    | some status =>
        exact StyledText.exists_ofMarkup_of_not_mem (bracket_not_mem_decimalText status)
  · refine StyledText.exists_ofMarkup_of_not_mem ?_
    simpa using bracket_not_mem_decimalText result.durationMs

theorem exists_mapM_of_forall {α β ε : Type} {f : α → Except ε β} {items : List α}
    (h : ∀ item ∈ items, ∃ value, f item = .ok value) : ∃ values, items.mapM f = .ok values := by
  induction items with
  | nil => exact ⟨[], rfl⟩
  | cons item items ih =>
      rw [List.forall_mem_cons] at h
      obtain ⟨⟨value, first⟩, rest⟩ := h
      obtain ⟨values, others⟩ := ih rest
      refine ⟨value :: values, ?_⟩
      rw [List.mapM_cons, first, others]
      rfl

/-- The table of steps can be reported. -/
theorem exists_stepSummary (result : RunResult) :
    ∃ text, reporter.stepSummary result = .ok text := by
  unfold stepSummary
  split
  · exact ⟨_, rfl⟩
  · have rows : ∃ rows, result.steps.mapM stepTexts = .ok rows := by
      refine exists_mapM_of_forall fun step _ => exists_mapM_of_forall fun cell mem => ?_
      obtain ⟨text, shown⟩ := exists_ofMarkup_of_mem_stepCells mem
      exact ⟨text.text, by rw [shown]; rfl⟩
    obtain ⟨rows, read⟩ := rows
    rw [read]
    exact ⟨_, rfl⟩

end Table

end Reporter

end Runbook

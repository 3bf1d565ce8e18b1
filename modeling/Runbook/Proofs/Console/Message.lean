import Runbook.Console.Report
import Runbook.Proofs.Console.Escape

/-!
# Messages that can be shown

A message that was escaped can be shown whatever its characters, alone or inside of the marks of a
colour. So can a message without an opening bracket.
-/

namespace Runbook

namespace Console

/-- Whether a part of a marked text is read as text. -/
def Part.isText : Part → Bool
  | .plain _ => true
  | .tag n _ => n % 2 = 1

theorem isText_prependPlain (c : Char) {parts : List Part}
    (h : ∀ part ∈ parts, part.isText = true) :
    ∀ part ∈ prependPlain c parts, part.isText = true := by
  cases parts with
  | nil => simp [prependPlain, Part.isText]
  | cons part parts =>
      obtain ⟨first, rest⟩ := List.forall_mem_cons.mp h
      cases part with
      | plain text => exact List.forall_mem_cons.mpr ⟨rfl, rest⟩
      | tag n body => exact List.forall_mem_cons.mpr ⟨rfl, h⟩

/-- Reading goes on with the same open tags and meets no bad shade. -/
structure Marking.Keeps (marking later : Marking) : Prop where
  tags : later.tags = marking.tags
  isBad : later.isBad = marking.isBad

/-- A part that is text is read and leaves the tags alone. -/
theorem Marking.exists_read {part : Part} (h : part.isText = true) (marking : Marking) :
    ∃ later, marking.read part = .ok later ∧ marking.Keeps later := by
  cases part with
  | plain text => exact ⟨_, rfl, rfl, rfl⟩
  | tag n body =>
      have odd : n % 2 = 1 := by simpa [Part.isText] using h
      exact ⟨(marking.add (List.replicate (n / 2) '\\')).add ('[' :: body ++ [']']), if_pos odd,
        rfl, rfl⟩

theorem Marking.exists_foldlM_read {parts : List Part} (h : ∀ part ∈ parts, part.isText = true)
    (marking : Marking) :
    ∃ later, parts.foldlM Marking.read marking = .ok later ∧ marking.Keeps later := by
  induction parts generalizing marking with
  | nil => exact ⟨marking, rfl, rfl, rfl⟩
  | cons part parts ih =>
      obtain ⟨first, rest⟩ := List.forall_mem_cons.mp h
      obtain ⟨next, read, kept⟩ := marking.exists_read first
      obtain ⟨later, others, keeps⟩ := ih rest next
      refine ⟨later, ?_, keeps.tags.trans kept.tags, keeps.isBad.trans kept.isBad⟩
      rw [List.foldlM_cons, read]
      exact others

/-- The parts of backslashes before a tag that fills the rest of a text, or before nothing. -/
theorem parts_replicate_tag {body : List Char} (tag : IsTagBody body) (n : Nat) :
    parts (List.replicate n '\\' ++ '[' :: (body ++ [']'])) = [.tag n body] := by
  rw [parts_of_tag (tagAt?_tag tag n []), parts_nil]

/-- A text without an opening bracket has no tags. -/
theorem isText_parts_of_not_mem {s : List Char} (h : '[' ∉ s) :
    ∀ part ∈ parts s, part.isText = true := by
  induction s with
  | nil => simp
  | cons c s ih =>
      have untagged : tagAt? (c :: s) = none := by
        cases found : tagAt? (c :: s) with
        | none => rfl
        | some tag =>
            obtain ⟨n, body, rest⟩ := tag
            obtain ⟨-, same⟩ := eq_of_tagAt?_eq_some found
            exact absurd (show '[' ∈ c :: s by simp [same]) h
      rw [parts_cons untagged]
      exact isText_prependPlain c (ih fun mem => h (List.mem_cons_of_mem c mem))

/-- An escaped text has no tags. -/
theorem isText_parts_escape (s : List Char) : ∀ part ∈ parts (escape s), part.isText = true := by
  have opened : ([] : List Char).find? isBracket ≠ some ']' := by simp
  have all := parts_escape_append (Q := fun parts => ∀ part ∈ parts, part.isText = true) opened
    (fun c parts h => isText_prependPlain c h)
    (fun n body parts odd h => List.forall_mem_cons.mpr ⟨by simpa [Part.isText] using odd, h⟩)
    (fun n => isText_parts_of_not_mem (by simp)) s
  simpa using all

/-- One part is a tag, and the others are text. -/
def HasOneTag (body : List Char) (found : List Part) : Prop :=
  ∃ before n behind, found = before ++ .tag n body :: behind ∧
    (∀ part ∈ before, part.isText = true) ∧ ∀ part ∈ behind, part.isText = true

theorem HasOneTag.prependPlain (c : Char) {body : List Char} {found : List Part}
    (h : HasOneTag body found) : HasOneTag body (prependPlain c found) := by
  obtain ⟨before, n, behind, rfl, inner, outer⟩ := h
  refine ⟨Console.prependPlain c before, n, behind, ?_, isText_prependPlain c inner, outer⟩
  cases before with
  | nil => rfl
  | cons part before => cases part <;> rfl

/-- Behind an escaped text a closing tag is the only one. -/
theorem hasOneTag_parts_escape {body : List Char} (tag : IsTagBody body) (s : List Char) :
    HasOneTag body (parts (escape s ++ '[' :: (body ++ [']']))) := by
  have opened : ('[' :: (body ++ [']'])).find? isBracket ≠ some ']' := by simp [isBracket]
  refine parts_escape_append opened (fun c _ h => h.prependPlain c) ?_ ?_ s
  · rintro m other _ odd ⟨before, n, behind, rfl, inner, outer⟩
    exact ⟨.tag m other :: before, n, behind, rfl,
      List.forall_mem_cons.mpr ⟨by simpa [Part.isText] using odd, inner⟩, outer⟩
  · exact fun n => ⟨[], n, [], by rw [parts_replicate_tag tag]; rfl, by simp, by simp⟩

/-- A word that marks a style and closes it with a slash. -/
structure IsMark (body : List Char) (name : String) : Prop where
  tag : IsTagBody body
  unslashed : body.head? ≠ some '/'
  whole : body.takeWhile (· != '=') = body
  trimmed : Text.trim body = body
  style : styleName body = .ok name
  passive : name.startsWith "@" = false
  shaded : ∃ style, styleOf (name.toList ++ [' ']) = .ok style

namespace IsMark

variable {body : List Char} {name : String} (mark : IsMark body name)
include mark

theorem ne_nil : body ≠ [] := by
  obtain ⟨c, rest, same, -, -⟩ := mark.tag
  simp [same]

theorem closing : IsTagBody ('/' :: body) := by
  obtain ⟨c, rest, same, starts, plain⟩ := mark.tag
  refine ⟨'/', body, rfl, by decide, ?_⟩
  rw [same]
  exact List.forall_mem_cons.mpr ⟨isBracket_of_startsTag starts, plain⟩

theorem apply_opening (marking : Marking) :
    marking.apply body =
      .ok { marking with tags := ⟨marking.text.length, name, []⟩ :: marking.tags } := by
  have unslashed := mark.unslashed
  unfold Marking.apply
  simp only [mark.whole]
  split
  · next rest => simp at unslashed
  · simp [mark.style]

theorem apply_closing {marking : Marking} {start : Nat} {tags : List OpenTag}
    (opened : marking.tags = ⟨start, name, []⟩ :: tags) :
    marking.apply ('/' :: body) = .ok (marking.finish ⟨start, name, []⟩ tags) := by
  have whole : ('/' :: body).takeWhile (· != '=') = '/' :: body := by simp [mark.whole]
  unfold Marking.apply
  simp only [whole, mark.trimmed, List.isEmpty_iff, mark.ne_nil, if_false, mark.style, opened,
    closeNamed, if_true, Marking.finishRead, mark.passive, Bool.false_and, Bool.false_eq_true]

theorem isBad_finish (marking : Marking) (start : Nat) (tags : List OpenTag) :
    (marking.finish ⟨start, name, []⟩ tags).isBad = marking.isBad := by
  obtain ⟨style, shaded⟩ := mark.shaded
  simp [Marking.finish, OpenTag.words, shaded]

end IsMark

namespace StyledText

/-- A marked text can be shown if its parts are read without a bad shade. -/
theorem exists_ofMarkup_of_read {s : List Char} {marking : Marking}
    (read : (parts s).foldlM Marking.read ⟨[], [], [], false⟩ = .ok marking)
    (good : marking.close.isBad = false) : ∃ text, ofMarkup s = .ok text := by
  unfold ofMarkup
  split
  · refine ⟨⟨marking.close.text, marking.close.spans⟩, ?_⟩
    rw [read, Except.bind]
    simp [good]
  · exact ⟨_, rfl⟩

/-- A marked text can be shown if its parts are texts. -/
theorem exists_ofMarkup_of_isText {s : List Char} (h : ∀ part ∈ parts s, part.isText = true) :
    ∃ text, ofMarkup s = .ok text := by
  obtain ⟨later, read, keeps⟩ := Marking.exists_foldlM_read h ⟨[], [], [], false⟩
  refine exists_ofMarkup_of_read read ?_
  rw [Marking.close, keeps.tags]
  exact keeps.isBad

/-- A text with a mark can be shown, whether the one tag behind the mark closes it or is text
itself. -/
theorem exists_ofMarkup_of_mark {s body : List Char} {name : String} (mark : IsMark body name)
    {front rest : List Part} (found : parts s = front ++ .tag 0 body :: rest)
    (plain : ∀ part ∈ front, part.isText = true) (closed : HasOneTag ('/' :: body) rest) :
    ∃ text, ofMarkup s = .ok text := by
  obtain ⟨inside, n, behind, rfl, inner, outer⟩ := closed
  obtain ⟨ready, zeroth, held⟩ := Marking.exists_foldlM_read plain ⟨[], [], [], false⟩
  let start := (ready.add []).text.length
  let opened : Marking := { ready.add [] with tags := ⟨start, name, []⟩ :: ready.tags }
  have opening : ready.read (.tag 0 body) = .ok opened := mark.apply_opening (ready.add [])
  obtain ⟨next, first, kept⟩ := opened.exists_foldlM_read inner
  have entered : (parts s).foldlM Marking.read ⟨[], [], [], false⟩ =
      (Part.tag n ('/' :: body) :: behind).foldlM Marking.read next := by
    rw [found, List.foldlM_append, zeroth]
    change (Part.tag 0 body :: (inside ++ .tag n ('/' :: body) :: behind)).foldlM Marking.read
      ready = _
    rw [List.foldlM_cons, opening]
    change (inside ++ .tag n ('/' :: body) :: behind).foldlM Marking.read opened = _
    rw [List.foldlM_append, first]
    rfl
  have tags : next.tags = [⟨start, name, []⟩] := by
    rw [kept.tags]
    exact congrArg _ held.tags
  have good : next.isBad = false := kept.isBad.trans held.isBad
  by_cases odd : n % 2 = 1
  · -- The end is text, so that the mark stays open and is closed behind all.
    have text : Part.isText (.tag n ('/' :: body)) = true := by simpa [Part.isText] using odd
    obtain ⟨last, second, keeps⟩ := next.exists_foldlM_read (List.forall_mem_cons.mpr ⟨text, outer⟩)
    refine exists_ofMarkup_of_read (entered.trans second) ?_
    rw [Marking.close, keeps.tags, tags]
    exact (mark.isBad_finish last start []).trans (keeps.isBad.trans good)
  · let closed := (next.add (List.replicate (n / 2) '\\')).finish ⟨start, name, []⟩ []
    have closing : next.read (.tag n ('/' :: body)) = .ok closed :=
      (if_neg odd).trans (mark.apply_closing tags)
    obtain ⟨last, second, keeps⟩ := closed.exists_foldlM_read outer
    rw [List.foldlM_cons, closing] at entered
    refine exists_ofMarkup_of_read (entered.trans second) ?_
    rw [Marking.close, keeps.tags]
    exact keeps.isBad.trans ((mark.isBad_finish _ start []).trans good)

theorem exists_ofMarkup_escape (s : List Char) : ∃ text, ofMarkup (escape s) = .ok text :=
  exists_ofMarkup_of_isText (isText_parts_escape s)

theorem exists_ofMarkup_of_not_mem {s : List Char} (h : '[' ∉ s) :
    ∃ text, ofMarkup s = .ok text := by
  unfold ofMarkup
  rw [if_neg (by simpa using h)]
  exact ⟨_, rfl⟩

end StyledText

end Console

end Runbook

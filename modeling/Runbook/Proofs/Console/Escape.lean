import Runbook.Console.Markup

/-!
# Escaped text in markup

Escaping puts an odd number of backslashes before whatever would be read as a tag, so that an
escaped text has no tags of its own: read as markup it is text, and a tag that stands behind it is
the only one that can count.
-/

namespace Runbook.Console

/-- Whether a character is a bracket. -/
def isBracket (c : Char) : Bool := c == '[' || c == ']'

/-- What the brackets of a tag can hold. -/
def IsTagBody (body : List Char) : Prop :=
  ∃ c rest, body = c :: rest ∧ startsTag c = true ∧ ∀ d ∈ rest, isBracket d = false

section Tags

theorem drop_length_takeWhile (p : Char → Bool) (s : List Char) :
    s.drop (s.takeWhile p).length = s.dropWhile p := by
  have cut : s = s.takeWhile p ++ s.dropWhile p := List.takeWhile_append_dropWhile.symm
  conv => lhs; arg 2; rw [cut]
  exact List.drop_left

theorem isBracket_of_startsTag {c : Char} (h : startsTag c = true) : isBracket c = false := by
  have bracket : ∀ d, isBracket d = true → startsTag d = false := by
    intro d hd
    simp only [isBracket, Bool.or_eq_true, beq_iff_eq] at hd
    obtain rfl | rfl := hd <;> decide
  cases hc : isBracket c with
  | false => rfl
  | true => simp [bracket c hc] at h

theorem takeWhile_backslash {c : Char} (h : c ≠ '\\') (n : Nat) (s : List Char) :
    (List.replicate n '\\' ++ c :: s).takeWhile (· == '\\') = List.replicate n '\\' := by
  rw [List.takeWhile_append_of_pos fun d mem => by simp [List.eq_of_mem_replicate mem],
    List.takeWhile_cons_of_neg (by simpa using h), List.append_nil]

theorem takeWhile_not_bracket {body : List Char} (plain : ∀ d ∈ body, isBracket d = false)
    (s : List Char) :
    (body ++ ']' :: s).takeWhile (fun c => c != '[' && c != ']') = body := by
  rw [List.takeWhile_append_of_pos fun d mem => ?_,
    List.takeWhile_cons_of_neg (by decide), List.append_nil]
  simpa [isBracket, bne] using plain d mem

theorem tagAt?_tag {body : List Char} (tag : IsTagBody body) (n : Nat) (rest : List Char) :
    tagAt? (List.replicate n '\\' ++ '[' :: (body ++ ']' :: rest)) = some (n, body, rest) := by
  obtain ⟨c, body, rfl, starts, plain⟩ := tag
  have count := takeWhile_backslash (c := '[') (by decide) n (c :: body ++ ']' :: rest)
  unfold tagAt?
  dsimp only
  rw [count, List.length_replicate, List.drop_left' (List.length_replicate ..)]
  simp only [List.cons_append, starts, if_true, takeWhile_not_bracket plain, List.drop_left]

/-- A tag that was found stands at the start of the text. -/
theorem eq_of_tagAt?_eq_some {s body rest : List Char} {n : Nat}
    (h : tagAt? s = some (n, body, rest)) :
    IsTagBody body ∧ s = List.replicate n '\\' ++ '[' :: (body ++ ']' :: rest) := by
  unfold tagAt? at h
  simp only [drop_length_takeWhile] at h
  split at h
  · next c tail behind =>
    split at h
    · next starts =>
      split at h
      · next after closed =>
        cases h
        have plain : ∀ d ∈ tail.takeWhile (fun c => c != '[' && c != ']'),
            isBracket d = false := by
          intro d mem
          simpa [isBracket, bne] using List.all_eq_true.mp List.all_takeWhile d mem
        have run : s.takeWhile (· == '\\') =
            List.replicate (s.takeWhile (· == '\\')).length '\\' :=
          List.eq_replicate_of_mem fun d mem => by
            simpa using List.all_eq_true.mp List.all_takeWhile d mem
        refine ⟨⟨c, _, rfl, starts, plain⟩, ?_⟩
        calc s = s.takeWhile (· == '\\') ++ s.dropWhile (· == '\\') :=
              List.takeWhile_append_dropWhile.symm
          _ = _ := by
              rw [behind, ← run, List.cons_append, ← closed, List.takeWhile_append_dropWhile]
      · cases h
    · cases h
  · cases h

/-- Behind an opening bracket there is a tag if a tag can start there and the bracket is closed
before another one opens. -/
theorem isSome_tagAt?_bracket (s : List Char) :
    (tagAt? ('[' :: s)).isSome = true ↔
      s.head?.any startsTag = true ∧ s.find? isBracket = some ']' := by
  constructor
  · intro h
    obtain ⟨⟨n, body, rest⟩, found⟩ := Option.isSome_iff_exists.mp h
    obtain ⟨⟨c, body, rfl, starts, plain⟩, same⟩ := eq_of_tagAt?_eq_some found
    obtain rfl : n = 0 := by
      cases n with
      | zero => rfl
      | succ n => simp [List.replicate_succ] at same
    obtain rfl : s = c :: (body ++ ']' :: rest) := by simpa using same
    refine ⟨by simpa using starts, ?_⟩
    rw [List.find?_cons, isBracket_of_startsTag starts, List.find?_append,
      List.find?_eq_none.mpr (by simpa using plain)]
    rfl
  · rintro ⟨head, bracket⟩
    obtain ⟨unbracketed, before, after, rfl, plain⟩ := List.find?_eq_some_iff_append.mp bracket
    cases before with
    | nil =>
        have starts : startsTag ']' = true := by simpa using head
        exact absurd starts (by decide)
    | cons c before =>
        have starts : startsTag c = true := by simpa using head
        have tag : IsTagBody (c :: before) :=
          ⟨c, before, rfl, starts, fun d mem => by
            simpa using plain d (List.mem_cons_of_mem c mem)⟩
        have found := tagAt?_tag tag 0 after
        simp only [List.replicate_zero, List.nil_append] at found
        rw [found]
        rfl

theorem tagAt?_cons_of_ne {c : Char} (backslash : c ≠ '\\') (bracket : c ≠ '[') (s : List Char) :
    tagAt? (c :: s) = none := by
  cases found : tagAt? (c :: s) with
  | none => rfl
  | some tag =>
      obtain ⟨n, body, rest⟩ := tag
      obtain ⟨-, same⟩ := eq_of_tagAt?_eq_some found
      cases n with
      | zero => exact absurd (List.cons.inj same).1 bracket
      | succ n => exact absurd (List.cons.inj same).1 backslash

/-- A backslash in front leaves a tag where it is. -/
theorem tagAt?_backslash_eq_none_iff (s : List Char) :
    tagAt? ('\\' :: s) = none ↔ tagAt? s = none := by
  constructor
  · intro h
    cases found : tagAt? s with
    | none => rfl
    | some tag =>
        obtain ⟨n, body, rest⟩ := tag
        obtain ⟨tag, rfl⟩ := eq_of_tagAt?_eq_some found
        have more := tagAt?_tag tag (n + 1) rest
        rw [List.replicate_succ, List.cons_append, h] at more
        cases more
  · intro h
    cases found : tagAt? ('\\' :: s) with
    | none => rfl
    | some tag =>
        obtain ⟨n, body, rest⟩ := tag
        obtain ⟨tag, same⟩ := eq_of_tagAt?_eq_some found
        cases n with
        | zero => simp at same
        | succ n =>
            obtain rfl : s = List.replicate n '\\' ++ '[' :: (body ++ ']' :: rest) := by
              simpa [List.replicate_succ] using same
            rw [tagAt?_tag tag n rest] at h
            cases h

end Tags

section Parts

theorem parts_of_tag {s body rest : List Char} {n : Nat} (h : tagAt? s = some (n, body, rest)) :
    parts s = .tag n body :: parts rest := by
  rw [parts]
  split
  · next found =>
    rw [h] at found
    cases found
    rfl
  · next none =>
    rw [h] at none
    cases none

@[simp] theorem parts_nil : parts [] = [] := by
  rw [parts]
  rfl

theorem parts_cons {c : Char} {s : List Char} (h : tagAt? (c :: s) = none) :
    parts (c :: s) = prependPlain c (parts s) := by
  rw [parts]
  split
  · next found =>
    rw [h] at found
    cases found
  · rfl

/-- The text in which the tags are escaped, but whose end is not protected. -/
def escapeTags (s : List Char) : List Char := (parts s).flatMap Part.escaped

theorem escapeTags_of_tag {s body rest : List Char} {n : Nat}
    (h : tagAt? s = some (n, body, rest)) :
    escapeTags s =
      List.replicate (2 * n + 1) '\\' ++ '[' :: (body ++ ']' :: escapeTags rest) := by
  simp [escapeTags, parts_of_tag h, Part.escaped]

theorem escapeTags_cons {c : Char} {s : List Char} (h : tagAt? (c :: s) = none) :
    escapeTags (c :: s) = c :: escapeTags s := by
  rw [escapeTags, parts_cons h, escapeTags]
  cases parts s with
  | nil => rfl
  | cons part parts => cases part <;> rfl

/-- A text is escaped by its tags, or by a tag at its start and then by the rest of it. -/
theorem escapeTags_induction {P : List Char → Prop} (nil : P [])
    (tag : ∀ s n body rest, tagAt? s = some (n, body, rest) → P rest → P s)
    (plain : ∀ c s, tagAt? (c :: s) = none → P s → P (c :: s)) (s : List Char) : P s := by
  induction h : s.length using Nat.strongRecOn generalizing s with
  | ind length ih =>
      subst h
      cases found : tagAt? s with
      | some t =>
          obtain ⟨n, body, rest⟩ := t
          exact tag s n body rest found (ih _ (length_tagAt? found) rest rfl)
      | none =>
          cases s with
          | nil => exact nil
          | cons c s => exact plain c s found (ih _ (by simp) s rfl)

/-- Escaping adds backslashes only, so that the first bracket stays. -/
theorem find?_escapeTags (s : List Char) :
    (escapeTags s).find? isBracket = s.find? isBracket := by
  have opening (n : Nat) (s : List Char) :
      (List.replicate n '\\' ++ '[' :: s).find? isBracket = some '[' := by
    rw [List.find?_append, List.find?_eq_none.mpr fun d mem => by
      rw [List.eq_of_mem_replicate mem]
      decide]
    rfl
  induction s using escapeTags_induction with
  | nil => simp [escapeTags]
  | tag s n body rest found ih =>
      rw [escapeTags_of_tag found, (eq_of_tagAt?_eq_some found).2, opening, opening]
  | plain c s found ih => rw [escapeTags_cons found, List.find?_cons, List.find?_cons, ih]

theorem startsTag_of_escapeTags {s : List Char} {c : Char} (h : (escapeTags s).head? = some c)
    (starts : startsTag c = true) : s.head? = some c := by
  cases found : tagAt? s with
  | some tag =>
      obtain ⟨n, body, rest⟩ := tag
      rw [escapeTags_of_tag found, List.replicate_succ] at h
      obtain rfl : '\\' = c := by simpa using h
      exact absurd starts (by decide)
  | none =>
      cases s with
      | nil => simp [escapeTags] at h
      | cons d s => simpa [escapeTags_cons found] using h

/-- Where a text starts with no tag, neither does it when it is escaped, unless it is nothing but
backslashes and so belongs to what stands behind it. -/
theorem tagAt?_escapeTags_append {close : List Char} (opened : close.find? isBracket ≠ some ']')
    {s : List Char} (untagged : tagAt? s = none) (mixed : ∃ c ∈ s, c ≠ '\\') :
    tagAt? (escapeTags s ++ close) = none := by
  induction s with
  | nil => simp at mixed
  | cons c s ih =>
      rw [escapeTags_cons untagged, List.cons_append]
      by_cases backslash : c = '\\'
      · subst backslash
        rw [tagAt?_backslash_eq_none_iff] at untagged ⊢
        exact ih untagged (by simpa using mixed)
      · by_cases bracket : c = '['
        · subst bracket
          -- A tag would start and be closed before the next opening bracket without escapes too.
          rw [← Option.not_isSome_iff_eq_none, isSome_tagAt?_bracket] at untagged ⊢
          rintro ⟨head, closed⟩
          rw [List.find?_append, find?_escapeTags] at closed
          cases first : s.find? isBracket with
          | none => exact opened (by simpa [first] using closed)
          | some d =>
              obtain rfl : d = ']' := by simpa [first] using closed
              refine untagged ⟨?_, first⟩
              obtain ⟨e, shown, starts⟩ := (Option.any_eq_true ..).mp head
              have nonempty : escapeTags s ≠ [] := by
                rintro empty
                rw [← find?_escapeTags, empty] at first
                cases first
              obtain ⟨d, rest, text⟩ := List.exists_cons_of_ne_nil nonempty
              obtain rfl : d = e := by simpa [text] using shown
              rw [startsTag_of_escapeTags (by rw [text]; rfl) starts]
              exact starts
        · exact tagAt?_cons_of_ne backslash bracket _

theorem escapeTags_of_backslashes {s : List Char} (h : ∀ c ∈ s, c = '\\') :
    escapeTags s = s := by
  induction s with
  | nil => simp [escapeTags]
  | cons c s ih =>
      have untagged : tagAt? (c :: s) = none := by
        cases found : tagAt? (c :: s) with
        | none => rfl
        | some tag =>
            obtain ⟨n, body, rest⟩ := tag
            obtain ⟨-, same⟩ := eq_of_tagAt?_eq_some found
            exact absurd (h '[' (by simp [same])) (by decide)
      rw [escapeTags_cons untagged, ih fun d mem => h d (List.mem_cons_of_mem c mem)]

/-- What holds of the parts of backslashes before an ending, and is kept by text and by escaped tags
in front, holds of the parts of an escaped text before the ending. -/
theorem parts_escapeTags_append {Q : List Part → Prop} {close : List Char}
    (opened : close.find? isBracket ≠ some ']')
    (plain : ∀ c parts, Q parts → Q (prependPlain c parts))
    (tag : ∀ n body parts, n % 2 = 1 → Q parts → Q (.tag n body :: parts))
    (ending : ∀ n, Q (parts (List.replicate n '\\' ++ close))) (s : List Char) :
    Q (parts (escapeTags s ++ close)) := by
  induction s using escapeTags_induction with
  | nil => simpa [escapeTags] using ending 0
  | tag s n body rest found ih =>
      have held := (eq_of_tagAt?_eq_some found).1
      have escaped := tagAt?_tag held (2 * n + 1) (escapeTags rest ++ close)
      rw [escapeTags_of_tag found, List.append_assoc, List.cons_append, List.append_assoc,
        List.cons_append, parts_of_tag escaped]
      exact tag _ _ _ (by omega) ih
  | plain c s found ih =>
      by_cases mixed : ∃ d ∈ c :: s, d ≠ '\\'
      · have untagged := tagAt?_escapeTags_append opened found mixed
        rw [escapeTags_cons found, List.cons_append] at untagged ⊢
        rw [parts_cons untagged]
        exact plain c _ ih
      · have backslashes : ∀ d ∈ c :: s, d = '\\' := by simpa using mixed
        rw [escapeTags_of_backslashes backslashes, List.eq_replicate_of_mem backslashes]
        exact ending _

/-- The end of an escaped text is protected by at most one backslash. -/
theorem exists_escape_eq (s : List Char) :
    ∃ n, escape s = escapeTags s ++ List.replicate n '\\' := by
  change ∃ n, protectEnd (escapeTags s) = _
  generalize escapeTags s = t
  unfold protectEnd
  split
  · next h =>
    refine ⟨1, ?_⟩
    rw [List.reverse_eq_iff.mp h]
    rfl
  · split
    · exact ⟨0, by simp⟩
    · exact ⟨1, rfl⟩
  · exact ⟨0, by simp⟩

theorem parts_escape_append {Q : List Part → Prop} {close : List Char}
    (opened : close.find? isBracket ≠ some ']')
    (plain : ∀ c parts, Q parts → Q (prependPlain c parts))
    (tag : ∀ n body parts, n % 2 = 1 → Q parts → Q (.tag n body :: parts))
    (ending : ∀ n, Q (parts (List.replicate n '\\' ++ close))) (s : List Char) :
    Q (parts (escape s ++ close)) := by
  obtain ⟨n, same⟩ := exists_escape_eq s
  rw [same, List.append_assoc]
  refine parts_escapeTags_append ?_ plain tag (fun m => ?_) s
  · rw [List.find?_append, List.find?_eq_none.mpr fun d mem => by
      rw [List.eq_of_mem_replicate mem]
      decide]
    simpa using opened
  · rw [← List.append_assoc, List.replicate_append_replicate]
    exact ending _

end Parts

end Runbook.Console

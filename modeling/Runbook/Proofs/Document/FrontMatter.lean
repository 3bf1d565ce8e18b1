import Mathlib.Data.List.TakeWhile
import Runbook.Plan.Source
import Runbook.Proofs.Text.Lines

/-!
# The place of the front matter

A text is cut at its line feeds. A piece is a fence if it has three hyphens with spaces and tabs
behind them, and perhaps a carriage return. The front matter is what stands between the first two
fences, line feeds included; without two fences there is none. What follows the second fence
changes neither the mapping nor the error.
-/

namespace Runbook.FrontMatter

/-- A piece of a text that is a fence. -/
def IsFence (piece : List Char) : Prop :=
  ∃ margin ending, piece = '-' :: '-' :: '-' :: (margin ++ ending) ∧
    (∀ c ∈ margin, c = ' ' ∨ c = '\t') ∧ (ending = [] ∨ ending = ['\r'])

/-- Pieces with a line feed behind each of them. -/
def joined (pieces : List (List Char)) : List Char := pieces.flatMap (· ++ ['\n'])

section Fences

/-- What a line holds behind the margin of a fence, if it starts with three hyphens. -/
def afterHyphens? (s : List Char) : Option (List Char) :=
  if s.take 3 = ['-', '-', '-'] then
    some ((s.drop 3).dropWhile fun c => c == ' ' || c == '\t')
  else none

theorem afterHyphens?_hyphens (rest : List Char) :
    afterHyphens? ('-' :: '-' :: '-' :: rest) =
      some (rest.dropWhile fun c => c == ' ' || c == '\t') := by
  simp [afterHyphens?]

theorem afterHyphens?_eq_some_iff {s ending : List Char} :
    afterHyphens? s = some ending ↔
      ∃ margin, s = '-' :: '-' :: '-' :: (margin ++ ending) ∧
        (∀ c ∈ margin, c = ' ' ∨ c = '\t') ∧
        ∀ c, ending.head? = some c → c ≠ ' ' ∧ c ≠ '\t' := by
  constructor
  · intro h
    unfold afterHyphens? at h
    split at h
    · next starts =>
      have behind := Option.some.inj h
      have parts : (s.drop 3).takeWhile (fun c => c == ' ' || c == '\t') ++ ending = s.drop 3 := by
        rw [← behind]
        exact List.takeWhile_append_dropWhile
      refine ⟨(s.drop 3).takeWhile fun c => c == ' ' || c == '\t', ?_, ?_, ?_⟩
      · rw [parts]
        calc
          s = s.take 3 ++ s.drop 3 := (List.take_append_drop 3 s).symm
          _ = '-' :: '-' :: '-' :: s.drop 3 := by rw [starts]; rfl
      · intro c mem
        simpa using List.mem_takeWhile_imp mem
      · intro c head
        have first := List.head?_dropWhile_not (fun c => c == ' ' || c == '\t') (s.drop 3)
        rw [behind, head] at first
        simpa using first
    · cases h
  · rintro ⟨margin, rfl, blank, apart⟩
    have all : ∀ c ∈ margin, (c == ' ' || c == '\t') = true := by simpa using blank
    rw [afterHyphens?_hyphens, List.dropWhile_append_of_pos all]
    cases ending with
    | nil => rfl
    | cons c ending =>
        have first := apart c rfl
        simp [first]

theorem isFence_iff (piece : List Char) :
    IsFence piece ↔ afterHyphens? piece = some [] ∨ afterHyphens? piece = some ['\r'] := by
  simp only [afterHyphens?_eq_some_iff, IsFence]
  constructor
  · rintro ⟨margin, ending, rfl, blank, rfl | rfl⟩
    · exact .inl ⟨margin, rfl, blank, by simp⟩
    · exact .inr ⟨margin, rfl, blank, by simp⟩
  · rintro (⟨margin, rfl, blank, -⟩ | ⟨margin, rfl, blank, -⟩)
    · exact ⟨margin, [], rfl, blank, .inl rfl⟩
    · exact ⟨margin, ['\r'], rfl, blank, .inr rfl⟩

instance : DecidablePred IsFence := fun piece => decidable_of_iff _ (isFence_iff piece).symm

theorem afterFence?_eq (s : List Char) :
    afterFence? s = (afterHyphens? s).bind fun rest =>
      let tail := if rest.head? = some '\r' then rest.tail else rest
      if tail.head?.all (· == '\n') then some tail else none := by
  unfold afterFence?
  split
  · next rest =>
    rw [afterHyphens?_hyphens, Option.bind_some]
    cases rest.dropWhile fun c => c == ' ' || c == '\t' with
    | nil => rfl
    | cons c ending =>
        by_cases h : c = '\r'
        · subst h
          rfl
        · simp [h]
  · next other =>
    cases left : afterHyphens? s with
    | none => rfl
    | some ending =>
        obtain ⟨margin, rfl, -⟩ := afterHyphens?_eq_some_iff.mp left
        exact absurd rfl (other _)

section First

variable {piece tail : List Char} (start : tail.head?.all (· == '\n') = true)
include start

theorem afterHyphens?_append :
    afterHyphens? (piece ++ tail) = (afterHyphens? piece).map (· ++ tail) := by
  cases left : afterHyphens? piece with
  | some ending =>
      obtain ⟨margin, rfl, blank, apart⟩ := afterHyphens?_eq_some_iff.mp left
      refine afterHyphens?_eq_some_iff.mpr ⟨margin, by simp, blank, fun c head => ?_⟩
      cases ending with
      | nil =>
          obtain rfl : c = '\n' := by simpa [show tail.head? = some c from head] using start
          decide
      | cons d ending => exact apart c head
  | none =>
      have hyphens : piece.take 3 ≠ ['-', '-', '-'] := by simpa [afterHyphens?] using left
      -- A piece of less than three characters is followed by a line feed, which is no hyphen.
      have unmatched : (piece ++ tail).take 3 ≠ ['-', '-', '-'] := by
        match piece, tail with
        | a :: b :: c :: piece, tail => simpa using hyphens
        | [], [] | [_], [] | [_, _], [] => simp
        | [], c :: tail | [_], c :: tail | [_, _], c :: tail =>
            obtain rfl : c = '\n' := by simpa using start
            simp
      rw [afterHyphens?, if_neg unmatched]
      rfl

/-- A fence is found at the start of a text if the first piece is one. -/
theorem afterFence?_append (unmarked : '\n' ∉ piece) :
    afterFence? (piece ++ tail) = if IsFence piece then some tail else none := by
  rw [afterFence?_eq, afterHyphens?_append start]
  cases left : afterHyphens? piece with
  | none => simp [isFence_iff, left]
  | some ending =>
      have inside : '\n' ∉ ending := by
        obtain ⟨margin, rfl, -⟩ := afterHyphens?_eq_some_iff.mp left
        simp at unmarked
        exact unmarked.2
      simp only [isFence_iff, left, Option.map_some, Option.bind_some, Option.some.injEq]
      cases ending with
      | nil =>
          cases tail with
          | nil => rfl
          | cons c tail =>
              obtain rfl : c = '\n' := by simpa using start
              simp
      | cons c ending =>
          by_cases returned : c = '\r'
          · subst returned
            cases ending with
            | nil => simpa using start
            | cons d ending =>
                have feed : d ≠ '\n' := fun same => inside (by simp [same])
                simp [feed]
          · have feed : c ≠ '\n' := fun same => inside (by simp [same])
            simp [returned, feed]

end First

end Fences

section Splitting

open Text (pieces Behind)

theorem head?_of_behind {tail : List Char} {parts : List (List Char)} (h : Behind '\n' tail parts) :
    tail.head?.all (· == '\n') = true := by
  cases h <;> rfl

theorem splitAtFence_true (s : List Char) :
    splitAtFence true s =
      match afterFence? s with
      | some tail => some ([], tail)
      | none => splitAtFence false s := by
  cases s with
  | nil => rfl
  | cons c s => rfl

/-- Within a line no fence starts. -/
theorem splitAtFence_append {piece : List Char} (unmarked : '\n' ∉ piece) (tail : List Char) :
    splitAtFence false (piece ++ tail) =
      (splitAtFence false tail).map fun (before, after) => (piece ++ before, after) := by
  induction piece with
  | nil => simp
  | cons c piece ih =>
      obtain ⟨apart, unmarked⟩ := not_or.mp (List.mem_cons.not.mp unmarked)
      have inside : (c == '\n') = false := beq_eq_false_iff_ne.mpr (Ne.symm apart)
      have step : splitAtFence false (c :: piece ++ tail) =
          (splitAtFence (c == '\n') (piece ++ tail)).map fun (before, after) =>
            (c :: before, after) := rfl
      rw [step, inside, ih unmarked, Option.map_map]
      rfl

theorem splitAtFence_feed (s : List Char) :
    splitAtFence false ('\n' :: s) =
      (splitAtFence true s).map fun (before, after) => ('\n' :: before, after) := rfl

/-- A piece that is no fence is passed by. -/
theorem splitAtFence_of_not_isFence {piece tail : List Char} {parts : List (List Char)}
    (unmarked : '\n' ∉ piece) (behind : Behind '\n' tail parts) (other : ¬IsFence piece) :
    splitAtFence true (piece ++ tail) =
      (splitAtFence false tail).map fun (before, after) => (piece ++ before, after) := by
  rw [splitAtFence_true, afterFence?_append (head?_of_behind behind) unmarked, if_neg other]
  exact splitAtFence_append unmarked tail

/-- A text is split at its first piece that is a fence. -/
theorem splitAtFence_of_pieces {s : List Char} {before after : List (List Char)}
    {fence : List Char} (h : pieces s = before ++ fence :: after)
    (none : ∀ piece ∈ before, ¬IsFence piece) (found : IsFence fence) :
    ∃ tail, splitAtFence true s = some (joined before, tail) ∧ Behind '\n' tail after := by
  induction before generalizing s with
  | nil =>
      obtain ⟨unmarked, tail, rfl, behind⟩ := Text.exists_of_splitOn_eq_cons h
      refine ⟨tail, ?_, behind⟩
      rw [splitAtFence_true, afterFence?_append (head?_of_behind behind) unmarked, if_pos found]
      rfl
  | cons piece before ih =>
      obtain ⟨first, later⟩ := List.forall_mem_cons.mp none
      obtain ⟨unmarked, tail, rfl, behind⟩ := Text.exists_of_splitOn_eq_cons h
      obtain ⟨s, rfl, others⟩ := behind.exists_of_ne_nil (by simp)
      obtain ⟨rest, split, left⟩ := ih others later
      refine ⟨rest, ?_, left⟩
      rw [splitAtFence_of_not_isFence unmarked behind first, splitAtFence_feed, split]
      simp [joined]

/-- A text without a fence is not split. -/
theorem splitAtFence_eq_none {s : List Char} (none : ∀ piece ∈ pieces s, ¬IsFence piece) :
    splitAtFence true s = .none := by
  generalize found : pieces s = parts at none
  induction parts generalizing s with
  | nil => exact absurd found (Text.splitOn_ne_nil '\n' s)
  | cons piece parts ih =>
      obtain ⟨first, later⟩ := List.forall_mem_cons.mp none
      obtain ⟨unmarked, tail, rfl, behind⟩ := Text.exists_of_splitOn_eq_cons found
      rw [splitAtFence_of_not_isFence unmarked behind first]
      cases behind with
      | last => rfl
      | marked s => rw [splitAtFence_feed, ih rfl later]; rfl

/-- What is read stands between the first two pieces that are fences. -/
theorem region?_of_pieces {text : List Char} {before between after : List (List Char)}
    {first second : List Char} (h : pieces text = before ++ first :: (between ++ second :: after))
    (others : ∀ piece ∈ before ++ between, ¬IsFence piece) (opens : IsFence first)
    (closes : IsFence second) : region? text = some ('\n' :: joined between) := by
  rw [List.forall_mem_append] at others
  obtain ⟨tail, split, behind⟩ := splitAtFence_of_pieces h others.1 opens
  obtain ⟨s, rfl, later⟩ := behind.exists_of_ne_nil (by simp)
  obtain ⟨rest, again, -⟩ := splitAtFence_of_pieces later others.2 closes
  simp [region?, split, splitAtFence_feed, again]

/-- The first fence among pieces. -/
theorem exists_first_fence {pieces : List (List Char)} (h : 0 < pieces.countP (IsFence ·)) :
    ∃ before fence after, pieces = before ++ fence :: after ∧
      (∀ piece ∈ before, ¬IsFence piece) ∧ IsFence fence ∧
        pieces.countP (IsFence ·) = after.countP (IsFence ·) + 1 := by
  cases found : pieces.find? (IsFence ·) with
  | none =>
      have zero : pieces.countP (IsFence ·) = 0 :=
        List.countP_eq_zero.mpr (List.find?_eq_none.mp found)
      omega
  | some fence =>
      obtain ⟨opens, before, after, rfl, others⟩ := List.find?_eq_some_iff_append.mp found
      have none : ∀ piece ∈ before, ¬IsFence piece := by simpa using others
      have zero : before.countP (IsFence ·) = 0 := List.countP_eq_zero.mpr (by simpa using none)
      refine ⟨before, fence, after, rfl, none, of_decide_eq_true opens, ?_⟩
      have counted : (fence :: after).countP (IsFence ·) = after.countP (IsFence ·) + 1 :=
        List.countP_cons_of_pos opens
      rw [List.countP_append, zero, counted, Nat.zero_add]

theorem exists_two_fences {pieces : List (List Char)} (h : 2 ≤ pieces.countP (IsFence ·)) :
    ∃ before first between second after, pieces = before ++ first :: (between ++ second :: after) ∧
      (∀ piece ∈ before ++ between, ¬IsFence piece) ∧ IsFence first ∧ IsFence second := by
  have one : 0 < pieces.countP (IsFence ·) := by omega
  obtain ⟨before, first, behind, rfl, before_others, opens, count⟩ := exists_first_fence one
  have more : 0 < behind.countP (IsFence ·) := by omega
  obtain ⟨between, second, after, rfl, between_others, closes, -⟩ := exists_first_fence more
  exact ⟨before, first, between, second, after, rfl,
    List.forall_mem_append.mpr ⟨before_others, between_others⟩, opens, closes⟩

/-- With less than two fences nothing is read. -/
theorem region?_eq_none {text : List Char} (h : (pieces text).countP (IsFence ·) < 2) :
    region? text = none := by
  by_cases one : 0 < (pieces text).countP (IsFence ·)
  · obtain ⟨before, fence, after, parts, others, opens, count⟩ := exists_first_fence one
    obtain ⟨tail, split, behind⟩ := splitAtFence_of_pieces parts others opens
    have rest : splitAtFence false tail = none := by
      cases behind with
      | last => rfl
      | marked s =>
          have zero : (pieces s).countP (IsFence ·) = 0 := by
            rw [pieces]
            omega
          have unfenced : ∀ piece ∈ pieces s, ¬IsFence piece := by
            simpa using List.countP_eq_zero.mp zero
          rw [splitAtFence_feed, splitAtFence_eq_none unfenced]
          rfl
    simp [region?, split, rest]
  · have zero : (pieces text).countP (IsFence ·) = 0 := by omega
    have unfenced : ∀ piece ∈ pieces text, ¬IsFence piece := by
      simpa using List.countP_eq_zero.mp zero
    simp [region?, splitAtFence_eq_none unfenced]

/-- The text up to the second fence and its line feed tells what is read. -/
theorem region?_append {front : List Char} (ended : front.getLast? = some '\n')
    (fenced : 2 ≤ (pieces front).countP (IsFence ·)) (s t : List Char) :
    region? (front ++ s) = region? (front ++ t) := by
  obtain ⟨line, rfl⟩ := List.getLast?_eq_some_iff.mp ended
  have cut (s : List Char) : pieces (line ++ ['\n'] ++ s) = pieces line ++ pieces s := by
    rw [List.append_assoc]
    exact Text.splitOn_append_cons '\n' line s
  have count : (pieces (line ++ ['\n'])).countP (IsFence ·) = (pieces line).countP (IsFence ·) := by
    have none : (pieces []).countP (IsFence ·) = 0 := by decide
    rw [← List.append_nil (line ++ _), cut, List.countP_append, none, Nat.add_zero]
  rw [count] at fenced
  obtain ⟨before, first, between, second, after, parts, others, opens, closes⟩ :=
    exists_two_fences fenced
  have read (s : List Char) : region? (line ++ ['\n'] ++ s) = some ('\n' :: joined between) := by
    have longer : pieces (line ++ ['\n'] ++ s) =
        before ++ first :: (between ++ second :: (after ++ pieces s)) := by
      rw [cut, parts]
      simp
    exact region?_of_pieces longer others opens closes
  rw [read, read]

end Splitting

/-- The mapping is read between the first two fences, a text without them has none, and what
follows the line of the second fence changes neither the mapping nor the error of a plan. -/
theorem entries?_between_fences :
    (∀ text : String, (Text.pieces text.toList).countP (IsFence ·) < 2 →
      entries? text.toList = none ∧
        ∀ file, Plan.ofText text file = .error (.badMetadata file)) ∧
    (∀ text : String, 2 ≤ (Text.pieces text.toList).countP (IsFence ·) →
      ∃ before first between second after,
        Text.pieces text.toList = before ++ first :: (between ++ second :: after) ∧
          (∀ piece ∈ before ++ between, ¬IsFence piece) ∧ IsFence first ∧ IsFence second ∧
            region? text.toList = some ('\n' :: joined between) ∧
              entries? text.toList =
                (Yaml.document? false ('\n' :: joined between)).bind mappingEntries?) ∧
    ∀ front s t : String, front.toList.getLast? = some '\n' →
      2 ≤ (Text.pieces front.toList).countP (IsFence ·) →
        entries? (front ++ s).toList = entries? (front ++ t).toList ∧
          ∀ file error, Plan.ofText (front ++ s) file = .error error ↔
            Plan.ofText (front ++ t) file = .error error := by
  refine ⟨?_, ?_, ?_⟩
  · intro text few
    have unread := region?_eq_none few
    constructor
    · rw [entries?, unread]
      rfl
    · intro file
      simp [Plan.ofText, copiedEntries?, unread]
  · intro text fenced
    obtain ⟨before, first, between, second, after, parts, others, opens, closes⟩ :=
      exists_two_fences fenced
    have read := region?_of_pieces parts others opens closes
    refine ⟨before, first, between, second, after, parts, others, opens, closes, read, ?_⟩
    rw [entries?, read]
    rfl
  · intro front s t ended fenced
    have same : region? (front ++ s).toList = region? (front ++ t).toList := by
      rw [String.toList_append, String.toList_append]
      exact region?_append ended fenced s.toList t.toList
    constructor
    · rw [entries?, entries?, same]
    · intro file error
      rw [Plan.ofText, Plan.ofText, copiedEntries?, copiedEntries?, same]
      -- Only the directives of a plan come from the text behind the second fence.
      split
      · rfl
      · split
        · split <;> simp
        · rfl

/-- A text whose first fence has blanks behind it, and whose second one a carriage return. What
stands between them is no mapping. -/
def fencedText : String := "# Guide\n--- \t\nan outline\n---\r\n"

theorem entries?_between_fences_fencedText :
    entries? "---\nan outline\n".toList = none ∧
      (∃ before first between second after,
        Text.pieces fencedText.toList = before ++ first :: (between ++ second :: after) ∧
          (∀ piece ∈ before ++ between, ¬IsFence piece) ∧ IsFence first ∧ IsFence second ∧
            region? fencedText.toList = some ('\n' :: joined between) ∧
              entries? fencedText.toList =
                (Yaml.document? false ('\n' :: joined between)).bind mappingEntries?) ∧
        Plan.ofText (fencedText ++ "---\na: b\n---\n") "guide.md" =
          .error (.badMetadata "guide.md") := by
  obtain ⟨few, fenced, ended⟩ := entries?_between_fences
  refine ⟨(few _ (by decide +kernel)).1, fenced fencedText (by decide +kernel), ?_⟩
  have unmapped : copiedEntries? (fencedText ++ "").toList = none := by decide +kernel
  have bad : Plan.ofText (fencedText ++ "") "guide.md" = .error (.badMetadata "guide.md") := by
    rw [Plan.ofText, unmapped]
  have same := ended fencedText "---\na: b\n---\n" "" (by decide +kernel) (by decide +kernel)
  exact (same.2 _ _).mpr bad

end Runbook.FrontMatter

import Mathlib.Data.List.Basic
import Mathlib.Tactic.Set
import Runbook.Console.Report
import Runbook.Proofs.Console.Emoji

/-!
# Plain texts on a console

A text without spans is laid out line by line, so that texts with a line feed between them are shown
one behind the other. A narrow line is one line of the console, and is shown as it is. So a text of
printable characters whose lines fit is shown with its codes replaced, and nothing else about it
changes.
-/

namespace Runbook

namespace Console

section Cuts

theorem slicesFrom_nil (start : Nat) (s : List Char) (places : List Nat) :
    StyledText.slicesFrom [] start s places =
      (StyledText.partsFrom start s places).map StyledText.ofText := by
  induction places generalizing start s with
  | nil => rfl
  | cons place places ih =>
      rw [StyledText.slicesFrom, StyledText.partsFrom, ih]
      rfl

/-- Places cut a text without spans into texts without spans. -/
theorem cut_ofText (s : List Char) (places : List Nat) :
    (StyledText.ofText s).cut places =
      (StyledText.partsFrom 0 s places).map StyledText.ofText := by
  cases places with
  | nil => rfl
  | cons place places => exact slicesFrom_nil 0 s (place :: places)

/-- A character in front of all places belongs to the first part. -/
theorem partsFrom_cons {start : Nat} {places : List Nat}
    (behind : ∀ place, places.head? = some place → start < place) (c : Char) (s : List Char) :
    StyledText.partsFrom start (c :: s) places =
      Text.extendFirst c (StyledText.partsFrom (start + 1) s places) := by
  cases places with
  | nil => rfl
  | cons place places =>
      have later : place - start = place - (start + 1) + 1 := by
        have := behind place rfl
        omega
      rw [StyledText.partsFrom, StyledText.partsFrom, later]
      rfl

theorem lt_of_head?_placesBehind {separator : Char} {start place : Nat} {s : List Char}
    (first : (StyledText.placesBehind separator start s).head? = some place) : start < place := by
  induction s generalizing start with
  | nil => cases first
  | cons c s ih =>
      rw [StyledText.placesBehind] at first
      split at first
      · obtain rfl : start + 1 = place := by simpa using first
        omega
      · have := ih first
        omega

/-- The text without the mark at its end. -/
def dropMark (mark : Char) (s : List Char) : List Char :=
  if s.getLast? = some mark then s.dropLast else s

theorem withText_ofText (s t : List Char) :
    (StyledText.ofText s).withText t = .ofText t := by
  rw [StyledText.withText]
  split <;> rfl

theorem dropSeparator_ofText (mark : Char) (s : List Char) :
    (StyledText.ofText s).dropSeparator mark = .ofText (dropMark mark s) := by
  have same : (StyledText.ofText s).text = s := rfl
  rw [StyledText.dropSeparator, dropMark, same, withText_ofText]
  split <;> rfl

theorem dropMark_cons {mark c : Char} (other : c ≠ mark) (s : List Char) :
    dropMark mark (c :: s) = c :: dropMark mark s := by
  cases s with
  | nil => simp [dropMark, other]
  | cons d s =>
      rw [dropMark, dropMark, List.getLast?_cons_cons]
      split <;> rfl

theorem partsFrom_ne_nil (start : Nat) (s : List Char) (places : List Nat) :
    StyledText.partsFrom start s places ≠ [] := by
  cases places <;> simp [StyledText.partsFrom]

/-- The parts that end behind the marks are, without the marks, the parts between them. -/
theorem map_partsFrom_placesBehind (mark : Char) (start : Nat) (s : List Char) :
    (StyledText.partsFrom start s (StyledText.placesBehind mark start s)).map (dropMark mark) =
      Text.splitOn mark s := by
  induction s generalizing start with
  | nil => rfl
  | cons c s ih =>
      rw [StyledText.placesBehind, Text.splitOn, ← ih (start + 1)]
      split
      · next same =>
        obtain rfl : c = mark := by simpa using same
        have one : start + 1 - start = 1 := by omega
        rw [StyledText.partsFrom, one]
        simp [dropMark]
      · next other =>
        have apart : c ≠ mark := by simpa using other
        rw [partsFrom_cons fun place first => Nat.lt_of_succ_lt (lt_of_head?_placesBehind first)]
        cases parts : StyledText.partsFrom (start + 1) s
          (StyledText.placesBehind mark (start + 1) s) with
        | nil => exact absurd parts (partsFrom_ne_nil _ _ _)
        | cons part parts =>
            simp only [Text.extendFirst, List.map_cons, dropMark_cons apart]

/-- The lines of a text without spans are the parts between its line feeds. -/
theorem lines_ofText (s : List Char) :
    (StyledText.ofText s).lines = (Text.pieces s).map StyledText.ofText := by
  rw [StyledText.lines, StyledText.splitBehind, cut_ofText, List.map_map, Text.pieces,
    ← map_partsFrom_placesBehind '\n' 0 s, List.map_map]
  exact List.map_congr_left fun part _ => dropSeparator_ofText '\n' part

end Cuts

section Wrapping

/-- A line without tabs that has room in so many cells. A line is cut by its characters as well, so
they are counted besides the cells that they take. -/
structure Narrow (cells : Nat) (line : List Char) : Prop where
  untabbed : '\t' ∉ line
  short : line.length ≤ cells
  narrow : weigh line ≤ cells

/-- No place is needed to break words that weigh no more than there are cells. -/
theorem breaks_of_le {cells : Nat} (overflow : Overflow) {words : List (List Char)}
    (start : Nat) {used : Nat} (fits : used + sumOf (words.map weigh) ≤ cells) :
    breaks cells overflow start used words = [] := by
  induction words generalizing start used with
  | nil => rfl
  | cons word words ih =>
      rw [List.map_cons, sumOf] at fits
      have front : Text.trimEnd word <+: word := by
        have behind : word.reverse.dropWhile Text.isBlank <:+ word.reverse :=
          List.dropWhile_suffix Text.isBlank
        simpa [Text.trimEnd] using List.reverse_prefix.mpr behind
      have trimmed := (width_le_weigh (Text.trimEnd word)).trans (weigh_mono front)
      have whole := width_le_weigh word
      have next : used + width word + sumOf (words.map weigh) ≤ cells := by omega
      unfold breaks
      rw [if_pos (by omega)]
      exact ih _ next

theorem weigh_takeWhile_drop (p : Char → Bool) (s : List Char) :
    weigh (s.takeWhile p) + weigh (s.drop (s.takeWhile p).length) = weigh s := by
  rw [← weigh_append, List.prefix_iff_eq_append.mp (List.takeWhile_prefix p)]

/-- The words of a line weigh no more than the line. -/
theorem sumOf_wordsOf_le (fuel : Nat) (s : List Char) :
    sumOf ((wordsOf fuel s).map weigh) ≤ weigh s := by
  induction fuel generalizing s with
  | zero => exact Nat.zero_le (weigh s)
  | succ fuel ih =>
      rw [wordsOf]
      dsimp only
      split
      · exact Nat.zero_le (weigh s)
      · set lead := s.takeWhile Text.isBlank with lead_eq
        set body := (s.drop lead.length).takeWhile fun c => !Text.isBlank c with body_eq
        set rest := s.drop (lead.length + body.length) with rest_eq
        have first := weigh_takeWhile_drop Text.isBlank s
        have second := weigh_takeWhile_drop (fun c => !Text.isBlank c) (s.drop lead.length)
        have third := weigh_takeWhile_drop Text.isBlank rest
        have later := ih (rest.drop (rest.takeWhile Text.isBlank).length)
        rw [List.drop_drop, ← body_eq, ← rest_eq] at second
        rw [← lead_eq] at first
        rw [List.map_cons, sumOf, weigh_append, weigh_append]
        omega

/-- A narrow line is not broken. -/
theorem wrapLine_of_narrow {cells : Nat} (overflow : Overflow) {line : List Char}
    (fits : Narrow cells line) :
    StyledText.wrapLine cells overflow (.ofText line) = [.ofText line] := by
  have same : (StyledText.ofText line).text = line := rfl
  have expanded : expandTabs (.ofText line) = .ofText line := by
    rw [expandTabs, same, if_neg (by simpa using fits.untabbed)]
  have unbroken : breaks cells overflow 0 0 (wordsOf (line.length + 1) line) = [] := by
    have words := sumOf_wordsOf_le (line.length + 1) line
    have narrow := fits.narrow
    exact breaks_of_le overflow 0 (by omega)
  have kept : dropExcess cells line = line := by
    have short := fits.short
    rw [dropExcess]
    exact List.take_of_length_le (by omega)
  have whole : truncate cells overflow line = line := by
    unfold truncate
    exact if_pos ((width_le_weigh line).trans fits.narrow)
  rw [StyledText.wrapLine, expanded, same, unbroken, cut_ofText]
  simp only [StyledText.partsFrom, List.map_cons, List.map_nil, withText_ofText, same, kept, whole]

/-- A text is laid out as its lines, if they are narrow. -/
theorem wrap_of_narrow {cells : Nat} (overflow : Overflow) {s : List Char}
    (fits : ∀ line ∈ Text.pieces s, Narrow cells line) :
    (StyledText.ofText s).wrap cells overflow = (Text.pieces s).map StyledText.ofText := by
  rw [StyledText.wrap, lines_ofText, List.flatMap_map, List.map_eq_flatMap]
  exact List.flatMap_congr fun line mem => wrapLine_of_narrow overflow (fits line mem)

end Wrapping

section Printing

theorem pieces_ofText (s : List Char) : (StyledText.ofText s).pieces = [s] := by
  simp [StyledText.pieces, StyledText.ofText, StyledText.partsFrom]

theorem crop_singleton {cells : Nat} {line : List Char} (fits : weigh line ≤ cells) :
    Line.crop cells [line] = line := by
  have narrow : Line.cells [line] ≤ cells := (width_le_weigh line).trans fits
  rw [Line.crop, if_pos narrow, List.flatten_singleton]

theorem printed_append (cells : Nat) (first second : List Line) :
    printed cells (first ++ second) = printed cells first ++ printed cells second := by
  rw [printed, printed, printed]
  split
  · rfl
  · rw [List.flatMap_append, String.ofList_append]

/-- A text whose lines are narrow is shown as it is. -/
theorem printed_wrap {cells : Nat} (filled : cells ≠ 0) (overflow : Overflow) {s : List Char}
    (fits : ∀ line ∈ Text.pieces s, Narrow cells line) :
    printed cells (((StyledText.ofText s).wrap cells overflow).map StyledText.pieces) =
      String.ofList s ++ "\n" := by
  have shown : ((Text.pieces s).map fun line => [line]).flatMap
      (fun line => Line.crop cells line ++ ['\n']) = s ++ ['\n'] := by
    rw [List.flatMap_map, ← Text.flatMap_splitOn '\n' s]
    refine List.flatMap_congr fun line mem => ?_
    rw [crop_singleton (fits line mem).narrow]
  have lines : ((Text.pieces s).map StyledText.ofText).map StyledText.pieces =
      (Text.pieces s).map fun line => [line] := by
    rw [List.map_map]
    exact List.map_congr_left fun line _ => pieces_ofText line
  rw [printed, if_neg filled, wrap_of_narrow overflow fits, lines, shown, String.ofList_append]

end Printing

section Fitting

/-- A text of printable characters and line feeds whose lines are no longer than the console is
wide. -/
def Fits (cells : Nat) (s : List Char) : Prop :=
  ∀ line ∈ Text.pieces s, line.length ≤ cells ∧ line.all isPrintable = true

instance (cells : Nat) (s : List Char) : Decidable (Fits cells s) :=
  inferInstanceAs (Decidable (∀ line ∈ Text.pieces s, line.length ≤ cells ∧
    line.all isPrintable = true))

/-- No character of a fitting text is dropped, and so is none of its pictures. -/
theorem dropControls_of_fits {cells : Nat} {s : List Char} (fits : Fits cells s) :
    dropControls (replaceCodes s) = replaceCodes s := by
  refine List.filter_eq_self.mpr fun c mem => ?_
  rcases mem_replaceCodes mem with old | new
  · by_cases feed : c = '\n'
    · rw [feed]
      decide
    · obtain ⟨line, listed, inside⟩ := Text.exists_mem_splitOn old feed
      have printable := List.all_eq_true.mp (fits line listed).2 c inside
      simp only [isPrintable, Bool.and_eq_true, decide_eq_true_eq] at printable
      simp only [isDropped, Bool.not_eq_true', Bool.or_eq_false_iff, beq_eq_false_iff_ne]
      omega
  · simp only [isVisible, isControl, Bool.and_eq_true, Bool.not_eq_true', Bool.or_eq_false_iff,
      decide_eq_false_iff_not] at new
    simp only [isDropped, Bool.not_eq_true', Bool.or_eq_false_iff, beq_eq_false_iff_ne]
    omega

/-- The lines of a fitting text still fit where codes are replaced. -/
theorem narrow_of_fits {cells : Nat} {s : List Char} (fits : Fits cells s) :
    ∀ line ∈ Text.pieces (replaceCodes s), Narrow cells line := by
  rw [pieces_replaceCodes]
  intro shown mem
  obtain ⟨line, listed, rfl⟩ := List.mem_map.mp mem
  obtain ⟨short, printable⟩ := fits line listed
  obtain ⟨fewer, narrower⟩ := replaceCodes_le printable
  refine ⟨fun tab => ?_, by omega, by omega⟩
  rcases mem_replaceCodes tab with old | new
  · exact absurd (List.all_eq_true.mp printable '\t' old) (by decide)
  · exact absurd new (by decide)

end Fitting

end Console

namespace Reporter

open Console

variable {reporter : Reporter} (text : reporter.asData = false)
include text

/-- A fitting text is shown with its codes replaced, and a console without cells shows nothing. -/
theorem printRaw_of_fits {message : String} (fits : Fits reporter.cells message.toList) :
    reporter.printRaw message =
      if reporter.cells = 0 then "" else String.ofList (replaceCodes message.toList) ++ "\n" := by
  rw [printRaw, if_neg (by simp [text]), StyledText.plain, dropControls_of_fits fits]
  split
  · next none => rw [printed, if_pos none]
  · next filled => exact printed_wrap filled .fold (narrow_of_fits fits)

/-- A fitting text is shown verbatim if and only if the console has cells and no code of the text
has a known name. -/
theorem printRaw_eq_iff {message : String} (fits : Fits reporter.cells message.toList) :
    reporter.printRaw message = message ++ "\n" ↔
      0 < reporter.cells ∧ Uncoded message.toList := by
  rw [printRaw_of_fits text fits, ← replaceCodes_eq_self_iff]
  split
  · next none =>
    have different : "" ≠ message ++ "\n" := by
      intro same
      have letters := congrArg String.toList same
      simp at letters
    simp [none, different]
  · next filled =>
    have ofList_iff : String.ofList (replaceCodes message.toList) = message ↔
        replaceCodes message.toList = message.toList := by
      rw [← String.toList_inj, String.toList_ofList]
    rw [String.append_left_inj, ofList_iff]
    simp [Nat.pos_of_ne_zero filled]

/-- Texts with a line feed between them are shown one behind the other. -/
theorem printRaw_append_feed (first second : String) :
    reporter.printRaw (first ++ "\n" ++ second) =
      reporter.printRaw first ++ reporter.printRaw second := by
  have texts : (first ++ "\n" ++ second).toList = first.toList ++ '\n' :: second.toList := by simp
  have controls (s t : List Char) :
      dropControls (s ++ '\n' :: t) = dropControls s ++ '\n' :: dropControls t := by
    rw [dropControls, List.filter_append, List.filter_cons_of_pos (by decide)]
    rfl
  have laid (s t : List Char) : (StyledText.ofText (s ++ '\n' :: t)).wrap reporter.cells .fold =
      (StyledText.ofText s).wrap reporter.cells .fold ++
        (StyledText.ofText t).wrap reporter.cells .fold := by
    rw [StyledText.wrap, lines_ofText, Text.pieces, Text.splitOn_append_cons, List.map_append,
      List.flatMap_append, StyledText.wrap, StyledText.wrap, lines_ofText, lines_ofText]
    rfl
  rw [printRaw, printRaw, printRaw, if_neg (by simp [text]), if_neg (by simp [text]),
    if_neg (by simp [text]), texts, StyledText.plain, replaceCodes_append_feed, controls, laid,
    List.map_append, printed_append]
  rfl

/-- Lines that are joined by line feeds are shown one by one. -/
theorem printRaw_intercalate {parts : List String} (nonempty : parts ≠ []) :
    reporter.printRaw ("\n".intercalate parts) = String.join (parts.map reporter.printRaw) := by
  induction parts with
  | nil => exact absurd rfl nonempty
  | cons part parts ih =>
      cases parts with
      | nil => rw [String.intercalate_singleton, List.map_singleton, String.join_cons,
          String.join_nil, String.append_empty]
      | cons next parts =>
          rw [List.map_cons, String.join_cons, String.intercalate_cons_cons,
            printRaw_append_feed text, ih (List.cons_ne_nil next parts)]

end Reporter

end Runbook

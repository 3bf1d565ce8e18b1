import Runbook.Proofs.Json.Scalar

/-!
# Plain data read back

A value without doubles, in whose objects no key comes twice, is read back from its text, whatever
the layout. The induction is on the value; it says of every part that it is read up to what stands
behind it, as long as no number goes on there.
-/

namespace Runbook.Json

/-- Values that their text keeps: no doubles, no halves of characters, and no key twice in an
object. -/
inductive Faithful : Json → Prop
  | null : Faithful .null
  | bool (b : Bool) : Faithful (.bool b)
  | int (i : Int) : Faithful (.int i)
  | str (s : String) : Faithful (.str s)
  | arr {items : List Json} (h : ∀ item ∈ items, Faithful item) : Faithful (.arr items)
  | obj {members : List (String × Json)} (nodup : (members.map Prod.fst).Nodup)
    (h : ∀ member ∈ members, Faithful member.2) : Faithful (.obj members)

section Spaces

/-- Blanks that may stand between marks. -/
def Spaces (pad : List Char) : Prop := ∀ c ∈ pad, isSpace c = true

theorem skipSpace_append {pad : List Char} (h : Spaces pad) (s : List Char) :
    skipSpace (pad ++ s) = skipSpace s := List.dropWhile_append_of_pos h

theorem skipSpace_cons {c : Char} (h : isSpace c = false) (s : List Char) :
    skipSpace (c :: s) = c :: s := List.dropWhile_cons_of_neg (by simp [h])

theorem Spaces.append {pad more : List Char} (h : Spaces pad) (h' : Spaces more) :
    Spaces (pad ++ more) := fun c mem => (List.mem_append.mp mem).elim (h c) (h' c)

theorem spaces_margin (layout : Layout) (depth : Nat) : Spaces (layout.margin depth) := by
  intro c mem
  cases layout with
  | line => cases mem
  | indented width =>
      obtain rfl | mem := List.mem_cons.mp mem
      · rfl
      · rw [List.eq_of_mem_replicate mem]
        rfl

theorem exists_divider_eq (layout : Layout) : ∃ gap, layout.divider = ',' :: gap ∧ Spaces gap := by
  cases layout with
  | line => exact ⟨[' '], rfl, by simp [Spaces, isSpace]⟩
  | indented width => exact ⟨[], rfl, by simp [Spaces]⟩

theorem readValue_append {pad : List Char} (h : Spaces pad) (fuel : Nat) (s : List Char) :
    readValue fuel (pad ++ s) = readValue fuel s := by
  cases fuel with
  | zero => simp only [readValue]
  | succ fuel => simp only [readValue, skipSpace_append h]

/-- No number goes on in the text. -/
def EndsNumber (rest : List Char) : Prop := rest.head?.all (fun c => !isNumberChar c) = true

theorem endsNumber_append {pad : List Char} (h : Spaces pad) {c : Char}
    (other : isNumberChar c = false) (rest : List Char) : EndsNumber (pad ++ c :: rest) := by
  have space : ∀ d, isSpace d = true → isNumberChar d = false := by
    intro d blank
    simp only [isSpace, Bool.or_eq_true, beq_iff_eq] at blank
    obtain ((rfl | rfl) | rfl) | rfl := blank <;> rfl
  cases pad with
  | nil => simp [EndsNumber, other]
  | cons d pad => simp [EndsNumber, space d (h d List.mem_cons_self)]

theorem endsNumber_comma (rest : List Char) : EndsNumber (',' :: rest) := rfl

end Spaces

section Layouts

variable (layout : Layout) (depth : Nat)

theorem itemChars_eq_map (items : List Json) :
    itemChars layout depth items = items.map (chars layout depth) := by
  induction items with
  | nil => simp [itemChars]
  | cons item items ih => simp [itemChars, ih]

/-- A written member. -/
def memberText (member : String × Json) : List Char :=
  quoted member.1 ++ ':' :: ' ' :: chars layout depth member.2

theorem memberChars_eq_map (members : List (String × Json)) :
    memberChars layout depth members = members.map (memberText layout depth) := by
  induction members with
  | nil => simp [memberChars]
  | cons member members ih => simp [memberChars, memberText, ih]

/-- The written items behind the first one. -/
def followed (items : List (List Char)) : List Char :=
  items.flatMap fun item => layout.divider ++ (layout.margin depth ++ item)

theorem bracketed_cons (opening closing : Char) (first : List Char) (others : List (List Char)) :
    bracketed layout depth opening closing (first :: others) =
      opening :: (layout.margin (depth + 1) ++
        (first ++ (followed layout (depth + 1) others ++ (layout.margin depth ++ [closing])))) := by
  simp [bracketed, followed]

/-- The first character of a value is no blank and closes nothing. -/
theorem exists_chars_eq {value : Json} (h : Faithful value) :
    ∃ c s, chars layout depth value = c :: s ∧ isSpace c = false ∧ c ≠ ']' := by
  cases h with
  | null => exact ⟨'n', _, by rw [chars], rfl, by decide⟩
  | bool b => cases b <;> exact ⟨_, _, by rw [chars], rfl, by decide⟩
  | int i =>
      obtain ⟨c, s, same, first⟩ := exists_decimalText_eq i
      refine ⟨c, s, by rw [chars, same], ?_⟩
      obtain digit | ⟨rfl, -⟩ := first
      · have other {d : Char} (h : d.isDigit = false) : c ≠ d := ne_of_isDigit digit h
        simp [isSpace, other (d := ' ') rfl, other (d := '\t') rfl, other (d := '\n') rfl,
          other (d := '\r') rfl, other (d := ']') rfl]
      · exact ⟨rfl, by decide⟩
  | str s => exact ⟨'\x22', _, by rw [chars, quoted], rfl, by decide⟩
  | @arr items h =>
      cases items with
      | nil => exact ⟨'[', [']'], by rw [chars, itemChars, bracketed], rfl, by decide⟩
      | cons item items =>
          exact ⟨'[', _, by rw [chars, itemChars, bracketed_cons], rfl, by decide⟩
  | @obj members nodup h =>
      cases members with
      | nil => exact ⟨'\x7b', ['\x7d'], by rw [chars, memberChars, bracketed], rfl, by decide⟩
      | cons member members =>
          exact ⟨'\x7b', _, by rw [chars, memberChars, bracketed_cons], rfl, by decide⟩

end Layouts

section Reading

variable (layout : Layout)

/-- The value is read from its text at a depth, up to what stands behind it. -/
def ReadsAt (depth : Nat) (value : Json) : Prop :=
  ∀ fuel rest, EndsNumber rest → (chars layout depth value).length ≤ fuel →
    readValue fuel (chars layout depth value ++ rest) = some (value, rest)

/-- What starts with a digit, or with a minus sign before one, is read as a number. -/
theorem readValue_number (fuel : Nat) {c : Char} {s : List Char} (unspaced : isSpace c = false)
    (first : c.isDigit = true ∨ c = '-' ∧ ∃ d t, s = d :: t ∧ d.isDigit = true) :
    readValue (fuel + 1) (c :: s) =
      (number? ((c :: s).takeWhile isNumberChar)).map
        fun n => (n, (c :: s).dropWhile isNumberChar) := by
  rw [readValue, skipSpace_cons unspaced]
  split
  case h_10 => rfl
  all_goals
    rename_i same
    cases same
    simp at first

theorem readsAt_int (depth : Nat) (i : Int) : ReadsAt layout depth (.int i) := by
  intro fuel rest ends enough
  obtain ⟨c, s, same, first⟩ := exists_decimalText_eq i
  have text : chars layout depth (.int i) = c :: s := by rw [chars, same]
  have numeric : ∀ d ∈ c :: s, isNumberChar d = true := fun d mem =>
    isNumberChar_of_mem_decimalText (same ▸ mem)
  have stop : rest.takeWhile isNumberChar = [] ∧ rest.dropWhile isNumberChar = rest := by
    cases rest with
    | nil => exact ⟨rfl, rfl⟩
    | cons d rest =>
        have other : isNumberChar d = false := by simpa [EndsNumber] using ends
        exact ⟨List.takeWhile_cons_of_neg (by simp [other]),
          List.dropWhile_cons_of_neg (by simp [other])⟩
  have taken : (c :: s ++ rest).takeWhile isNumberChar = c :: s := by
    rw [List.takeWhile_append_of_pos numeric, stop.1, List.append_nil]
  have left : (c :: s ++ rest).dropWhile isNumberChar = rest := by
    rw [List.dropWhile_append_of_pos numeric, stop.2]
  obtain ⟨_, _, head, unspaced, -⟩ := exists_chars_eq layout depth (.int i)
  cases text.symm.trans head
  cases fuel with
  | zero => simp [text] at enough
  | succ fuel =>
      have signed : c.isDigit = true ∨ c = '-' ∧ ∃ d t, s ++ rest = d :: t ∧ d.isDigit = true := by
        refine first.imp_right fun ⟨minus, d, t, behind, digit⟩ => ⟨minus, d, t ++ rest, ?_, digit⟩
        rw [behind, List.cons_append]
      rw [text, List.cons_append, readValue_number fuel unspaced signed, ← List.cons_append, taken,
        left, ← same, number?_decimalText]
      rfl

theorem readsAt_str (depth : Nat) (s : String) : ReadsAt layout depth (.str s) := by
  intro fuel rest _ enough
  cases fuel with
  | zero => simp [chars, quoted] at enough
  | succ fuel =>
      have text : chars layout depth (.str s) ++ rest =
          '\x22' :: (s.toList.flatMap escapeChar ++ '\x22' :: rest) := by
        simp [chars, quoted]
      rw [text, readValue, skipSpace_cons rfl]
      simp only [readString_quoted rest s, Option.map_some, String.ofList_toList]

theorem followed_nil (depth : Nat) : followed layout depth [] = [] := rfl

/-- Behind an item there is a comma, and blanks before the next one. -/
theorem exists_followed_cons (depth : Nat) :
    ∃ gap, Spaces gap ∧ ∀ item items, followed layout depth (item :: items) =
      ',' :: (gap ++ (item ++ followed layout depth items)) := by
  obtain ⟨gap, divider, blank⟩ := exists_divider_eq layout
  refine ⟨gap ++ layout.margin depth, blank.append (spaces_margin layout depth), ?_⟩
  intro item items
  simp [followed, divider]

/-- Items are read one behind the other up to the closing bracket. -/
theorem readItems_followed {depth : Nat} {first : Json} {others : List Json}
    (h : ∀ item ∈ first :: others, ReadsAt layout depth item) {pad close : List Char}
    (padded : Spaces pad) (closed : Spaces close) (fuel : Nat) (rest : List Char)
    (enough : (chars layout depth first ++
      followed layout depth (others.map (chars layout depth))).length < fuel) :
    readItems fuel (pad ++ (chars layout depth first ++
        (followed layout depth (others.map (chars layout depth)) ++ (close ++ ']' :: rest)))) =
      some (first :: others, rest) := by
  obtain ⟨gap, blank, cons⟩ := exists_followed_cons layout depth
  induction others generalizing first pad fuel with
  | nil =>
      obtain ⟨fuel, rfl⟩ := Nat.exists_eq_succ_of_ne_zero (Nat.ne_zero_of_lt enough)
      have value := h first List.mem_cons_self fuel (close ++ ']' :: rest)
        (endsNumber_append closed rfl rest) (by simp at enough; omega)
      rw [List.map_nil, followed_nil, List.nil_append, readItems, readValue_append padded, value]
      simp only [skipSpace_append closed, skipSpace_cons (c := ']') rfl]
  | cons second others ih =>
      obtain ⟨fuel, rfl⟩ := Nat.exists_eq_succ_of_ne_zero (Nat.ne_zero_of_lt enough)
      obtain ⟨own, more⟩ := List.forall_mem_cons.mp h
      rw [List.map_cons, cons] at enough ⊢
      simp only [List.length_append, List.length_cons] at enough
      have later := ih more blank fuel (by simp only [List.length_append]; omega)
      have value := fun s => own fuel (',' :: s) (endsNumber_comma s) (by omega)
      rw [List.cons_append, List.append_assoc, List.append_assoc, readItems,
        readValue_append padded, value]
      simp only [skipSpace_cons (c := ',') rfl, later, Option.map_some]

/-- A member is read from its key on: the key, the colon, the value. -/
theorem readMembers_followed {depth : Nat} {first : String × Json}
    {others : List (String × Json)} (h : ∀ member ∈ first :: others, ReadsAt layout depth member.2)
    {pad close : List Char} (padded : Spaces pad) (closed : Spaces close) (fuel : Nat)
    (rest : List Char)
    (enough : (memberText layout depth first ++
      followed layout depth (others.map (memberText layout depth))).length < fuel) :
    readMembers fuel (pad ++ (memberText layout depth first ++
        (followed layout depth (others.map (memberText layout depth)) ++
          (close ++ '\x7d' :: rest)))) =
      some (first :: others, rest) := by
  have spaced : Spaces [' '] := by simp [Spaces, isSpace]
  have key (member : String × Json) (s : List Char) : memberText layout depth member ++ s =
      '\x22' :: (member.1.toList.flatMap escapeChar ++ '\x22' ::
        (':' :: ([' '] ++ (chars layout depth member.2 ++ s)))) := by
    simp [memberText, quoted]
  have length (member : String × Json) :
      (chars layout depth member.2).length < (memberText layout depth member).length := by
    simp [memberText]
    omega
  obtain ⟨gap, blank, cons⟩ := exists_followed_cons layout depth
  induction others generalizing first pad fuel with
  | nil =>
      obtain ⟨fuel, rfl⟩ := Nat.exists_eq_succ_of_ne_zero (Nat.ne_zero_of_lt enough)
      have bound := length first
      have value := h first List.mem_cons_self fuel (close ++ '\x7d' :: rest)
        (endsNumber_append closed rfl rest) (by simp at enough; omega)
      rw [List.map_nil, followed_nil, List.nil_append, readMembers, skipSpace_append padded, key,
        skipSpace_cons rfl]
      simp only [readString_quoted, skipSpace_cons (c := ':') rfl, readValue_append spaced, value,
        skipSpace_append closed, skipSpace_cons (c := '\x7d') rfl, String.ofList_toList]
  | cons second others ih =>
      obtain ⟨fuel, rfl⟩ := Nat.exists_eq_succ_of_ne_zero (Nat.ne_zero_of_lt enough)
      obtain ⟨own, more⟩ := List.forall_mem_cons.mp h
      have bound := length first
      rw [List.map_cons, cons] at enough ⊢
      simp only [List.length_append, List.length_cons] at enough
      have later := ih more blank fuel (by simp only [List.length_append]; omega)
      have value := fun s => own fuel (',' :: s) (endsNumber_comma s) (by omega)
      rw [List.cons_append, List.append_assoc, List.append_assoc, readMembers,
        skipSpace_append padded, key, skipSpace_cons rfl]
      simp only [readString_quoted, skipSpace_cons (c := ':') rfl, readValue_append spaced, value,
        skipSpace_cons (c := ',') rfl, later, Option.map_some, String.ofList_toList]

theorem readsAt_arr {depth : Nat} {items : List Json} (faithful : ∀ item ∈ items, Faithful item)
    (h : ∀ item ∈ items, ReadsAt layout (depth + 1) item) : ReadsAt layout depth (.arr items) := by
  intro fuel rest _ enough
  rw [chars, itemChars_eq_map] at enough ⊢
  cases fuel with
  | zero => cases items <;> simp [bracketed] at enough
  | succ fuel =>
      cases items with
      | nil =>
          rw [List.map_nil, bracketed, List.cons_append, readValue, skipSpace_cons rfl]
          simp only [List.cons_append, List.nil_append, skipSpace_cons (c := ']') rfl]
      | cons first others =>
          rw [List.map_cons, bracketed_cons] at enough ⊢
          obtain ⟨c, s, head, unspaced, unclosed⟩ :=
            exists_chars_eq layout (depth + 1) (faithful first List.mem_cons_self)
          have margin := spaces_margin layout (depth + 1)
          have read := readItems_followed layout h margin (spaces_margin layout depth) fuel rest
            (by simp only [List.length_append, List.length_cons] at enough ⊢; omega)
          rw [List.cons_append, readValue, skipSpace_cons rfl]
          simp only [List.append_assoc, List.cons_append, List.nil_append]
          rw [skipSpace_append margin]
          simp only [head, List.cons_append, skipSpace_cons unspaced] at read ⊢
          split
          · next after same => exact absurd (List.cons.inj same).1 unclosed
          · rw [read]
            rfl

theorem setMember_of_not_mem {key : String} (value : Json) {members : List (String × Json)}
    (new : key ∉ members.map Prod.fst) :
    setMember key value members = members ++ [(key, value)] := by
  induction members with
  | nil => rfl
  | cons member members ih =>
      obtain ⟨name, old⟩ := member
      rw [List.map_cons, List.mem_cons, not_or] at new
      rw [setMember, if_neg (Ne.symm new.1), ih new.2]
      rfl

/-- Different members are set one behind the other. -/
theorem mergeMembers_of_nodup {first second : List (String × Json)}
    (nodup : ((first ++ second).map Prod.fst).Nodup) :
    mergeMembers first second = first ++ second := by
  induction second generalizing first with
  | nil => simp [mergeMembers]
  | cons member second ih =>
      have joined : first ++ member :: second = first ++ [member] ++ second := by simp
      have new : member.1 ∉ first.map Prod.fst := by
        rw [List.map_append, List.map_cons] at nodup
        exact fun mem => (List.nodup_append.mp nodup).2.2 _ mem _ List.mem_cons_self rfl
      rw [mergeMembers, List.foldl_cons, setMember_of_not_mem _ new, ← mergeMembers, joined]
      rw [joined] at nodup
      exact ih nodup

theorem readsAt_obj {depth : Nat} {members : List (String × Json)}
    (nodup : (members.map Prod.fst).Nodup)
    (h : ∀ member ∈ members, ReadsAt layout (depth + 1) member.2) :
    ReadsAt layout depth (.obj members) := by
  intro fuel rest _ enough
  rw [chars, memberChars_eq_map] at enough ⊢
  cases fuel with
  | zero => cases members <;> simp [bracketed] at enough
  | succ fuel =>
      cases members with
      | nil =>
          rw [List.map_nil, bracketed, List.cons_append, readValue, skipSpace_cons rfl]
          simp only [List.cons_append, List.nil_append, skipSpace_cons (c := '\x7d') rfl]
      | cons first others =>
          rw [List.map_cons, bracketed_cons] at enough ⊢
          have margin := spaces_margin layout (depth + 1)
          have read := readMembers_followed layout h margin (spaces_margin layout depth) fuel rest
            (by simp only [List.length_append, List.length_cons] at enough ⊢; omega)
          have merged : mergeMembers [] (first :: others) = first :: others :=
            mergeMembers_of_nodup nodup
          rw [List.cons_append, readValue, skipSpace_cons rfl]
          simp only [List.append_assoc, List.cons_append, List.nil_append]
          rw [skipSpace_append margin]
          have quote := skipSpace_cons (c := '\x22') rfl
          simp only [memberText, quoted, List.cons_append, quote] at read ⊢
          rw [read]
          simp only [Option.map_some, merged]
          rfl

/-- A faithful value is read from its text at every depth. -/
theorem Faithful.readsAt {value : Json} (h : Faithful value) (depth : Nat) :
    ReadsAt layout depth value := by
  induction h generalizing depth with
  | null =>
      intro fuel rest _ enough
      cases fuel with
      | zero => simp [chars] at enough
      | succ fuel => rw [chars, readValue]; rfl
  | bool b =>
      intro fuel rest _ enough
      cases fuel with
      | zero => cases b <;> simp [chars] at enough
      | succ fuel => cases b <;> (rw [chars, readValue]; rfl)
  | int i => exact readsAt_int layout depth i
  | str s => exact readsAt_str layout depth s
  | arr faithful ih => exact readsAt_arr layout faithful fun item mem => ih item mem (depth + 1)
  | obj nodup faithful ih =>
      exact readsAt_obj layout nodup fun member mem => ih member mem (depth + 1)

end Reading

/-- A faithful value is read back from its text, with blanks behind it. -/
theorem parse?_render_append {value : Json} (h : Faithful value) (layout : Layout)
    {blanks : List Char} (spaces : Spaces blanks) :
    parse? (value.render layout ++ String.ofList blanks) = some value := by
  have ends : EndsNumber blanks := by
    cases blanks with
    | nil => rfl
    | cons c blanks =>
        have blank := spaces c List.mem_cons_self
        simp only [isSpace, Bool.or_eq_true, beq_iff_eq] at blank
        obtain ((rfl | rfl) | rfl) | rfl := blank <;> rfl
  have left : skipSpace blanks = [] := by
    have all := skipSpace_append spaces []
    rwa [List.append_nil] at all
  have read := h.readsAt layout 0 (2 * (chars layout 0 value ++ blanks).length + 2) blanks ends
    (by rw [List.length_append]; omega)
  rw [parse?, render, ← String.ofList_append, String.toList_ofList, read]
  simp [left]

end Runbook.Json

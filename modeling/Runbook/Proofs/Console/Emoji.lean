import Mathlib.Data.List.TakeWhile
import Runbook.Console.Emoji
import Runbook.Proofs.Console.Pictures
import Runbook.Proofs.Text.Lines

/-!
# Pictures in place of their codes

A code is a name without colons and blanks between two colons, so none goes over the end of a line,
and the lines of a text are replaced one by one. Where the name is known, a picture takes the place
of the code; so a text stays as it is if and only if it has no code with a known name.
-/

namespace Runbook.Console

/-- The names in the codes of a text, from left to right; a colon that ends one code does not start
another one. -/
def codeNames (s : List Char) : List (List Char) :=
  match s with
  | [] => []
  | c :: rest =>
    if c == ':' then
      match h : codeName? rest with
      | some (name, after) =>
        have := length_codeName? h
        name :: codeNames after
      | none => codeNames rest
    else codeNames rest
termination_by s.length
decreasing_by all_goals simp only [List.length_cons]; omega

/-- Whether a text has no code with a known name. -/
def Uncoded (s : List Char) : Prop := ∀ name ∈ codeNames s, picture? name = none

instance (s : List Char) : Decidable (Uncoded s) :=
  inferInstanceAs (Decidable (∀ name ∈ codeNames s, picture? name = none))

section Names

variable {s name after : List Char}

/-- A name is all that stands before the next colon, and no blank is in it. -/
theorem codeName?_eq_some_iff :
    codeName? s = some (name, after) ↔
      s = name ++ ':' :: after ∧ ∀ c ∈ name, c ≠ ':' ∧ Text.isBlank c = false := by
  constructor
  · intro found
    rw [codeName?] at found
    split at found
    · next tail dropped =>
      cases found
      have front : s.takeWhile (fun c => c != ':' && !Text.isBlank c) <+: s :=
        List.takeWhile_prefix _
      have whole := List.prefix_iff_eq_append.mp front
      rw [dropped] at whole
      refine ⟨whole.symm, fun c mem => ?_⟩
      have inside := List.mem_takeWhile_imp mem
      simpa using inside
    · cases found
  · rintro ⟨rfl, unmarked⟩
    have taken : (name ++ ':' :: after).takeWhile (fun c => c != ':' && !Text.isBlank c) =
        name := by
      rw [List.takeWhile_append_of_pos fun c mem => by simpa using unmarked c mem,
        List.takeWhile_cons_of_neg (by simp), List.append_nil]
    simp only [codeName?, taken, List.drop_left]

/-- No name goes over the end of a line. -/
theorem codeName?_append_feed (s t : List Char) :
    codeName? (s ++ '\n' :: t) =
      (codeName? s).map fun found => (found.1, found.2 ++ '\n' :: t) := by
  cases found : codeName? s with
  | some code =>
      obtain ⟨name, after⟩ := code
      obtain ⟨whole, unmarked⟩ := codeName?_eq_some_iff.mp found
      refine codeName?_eq_some_iff.mpr ⟨?_, unmarked⟩
      rw [whole, List.append_assoc, List.cons_append]
  | none =>
      rw [Option.map_none]
      refine Option.eq_none_iff_forall_ne_some.mpr fun code longer => ?_
      obtain ⟨name, after⟩ := code
      obtain ⟨whole, unmarked⟩ := codeName?_eq_some_iff.mp longer
      rcases List.append_eq_append_iff.mp whole with ⟨more, rfl, tail⟩ | ⟨more, rfl, tail⟩
      · cases more with
        | nil => cases tail
        | cons c more =>
            obtain rfl : '\n' = c := (List.cons.inj tail).1
            have blank := (unmarked '\n' (by simp)).2
            exact absurd blank (by decide)
      · cases more with
        | nil => cases tail
        | cons c more =>
            obtain rfl : ':' = c := (List.cons.inj tail).1
            rw [codeName?_eq_some_iff.mpr ⟨rfl, unmarked⟩] at found
            cases found

end Names

section Equations

variable {c : Char} {rest name after : List Char}

theorem replaceCodes_cons_of_ne (other : c ≠ ':') :
    replaceCodes (c :: rest) = c :: replaceCodes rest := by
  rw [replaceCodes, if_neg (by simpa using other)]

theorem replaceCodes_of_code (found : codeName? rest = some (name, after)) :
    replaceCodes (':' :: rest) =
      (picture? name).getD (':' :: name ++ [':']) ++ replaceCodes after := by
  rw [replaceCodes, if_pos (beq_self_eq_true ':')]
  split
  · next same =>
    rw [found] at same
    cases same
    rfl
  · next unnamed =>
    rw [found] at unnamed
    cases unnamed

theorem replaceCodes_of_no_code (unnamed : codeName? rest = none) :
    replaceCodes (':' :: rest) = ':' :: replaceCodes rest := by
  rw [replaceCodes, if_pos (beq_self_eq_true ':')]
  split
  · next same =>
    rw [unnamed] at same
    cases same
  · rfl

theorem codeNames_cons_of_ne (other : c ≠ ':') : codeNames (c :: rest) = codeNames rest := by
  rw [codeNames, if_neg (by simpa using other)]

theorem codeNames_of_code (found : codeName? rest = some (name, after)) :
    codeNames (':' :: rest) = name :: codeNames after := by
  rw [codeNames, if_pos (beq_self_eq_true ':')]
  split
  · next same =>
    rw [found] at same
    cases same
    rfl
  · next unnamed =>
    rw [found] at unnamed
    cases unnamed

theorem codeNames_of_no_code (unnamed : codeName? rest = none) :
    codeNames (':' :: rest) = codeNames rest := by
  rw [codeNames, if_pos (beq_self_eq_true ':')]
  split
  · next same =>
    rw [unnamed] at same
    cases same
  · rfl

end Equations

/-- A text read from code to code: it is empty, starts with a code, or starts with a character that
stays. -/
theorem induction_on_codes {motive : List Char → Prop} (s : List Char) (nil : motive [])
    (code : ∀ name after, codeName? (name ++ ':' :: after) = some (name, after) →
      motive after → motive (':' :: (name ++ ':' :: after)))
    (single : ∀ c rest, replaceCodes (c :: rest) = c :: replaceCodes rest →
      codeNames (c :: rest) = codeNames rest → motive rest → motive (c :: rest)) :
    motive s := by
  induction s using replaceCodes.induct with
  | case1 => exact nil
  | case2 c rest colon name after found _ ih =>
      obtain rfl : c = ':' := by simpa using colon
      obtain ⟨rfl, -⟩ := codeName?_eq_some_iff.mp found
      exact code name after found ih
  | case3 c rest colon unnamed ih =>
      obtain rfl : c = ':' := by simpa using colon
      exact single ':' rest (replaceCodes_of_no_code unnamed) (codeNames_of_no_code unnamed) ih
  | case4 c rest other ih =>
      have apart : c ≠ ':' := by simpa using other
      exact single c rest (replaceCodes_cons_of_ne apart) (codeNames_cons_of_ne apart) ih

section Pictures

variable {name picture : List Char}

theorem picture?_eq (name : List Char) :
    picture? name = (pictures.lookup (String.ofList (Text.lower (splitForm name).1))).map
      (· ++ (splitForm name).2) := rfl

/-- The form of a picture takes one selector, and the word that chooses it is longer. -/
theorem splitForm_bounds (name : List Char) :
    (splitForm name).1 <+: name ∧ (splitForm name).2.all isVisible = true ∧
      (splitForm name).1.length + (splitForm name).2.length ≤ name.length ∧
      (splitForm name).1.length + weigh (splitForm name).2 ≤ name.length := by
  rw [splitForm]
  split
  · next word form chosen =>
    have listed : (word, form) ∈ pictureForms := List.mem_of_find?_eq_some chosen
    have ends : word.isSuffixOf name = true := by simpa using List.find?_some chosen
    have short := (List.isSuffixOf_iff_suffix.mp ends).length_le
    have forms : pictureForms.all (fun form => form.2.all isVisible &&
        (form.2.length ≤ form.1.length && weigh form.2 ≤ form.1.length)) = true := by
      decide +kernel
    have bounds := List.all_eq_true.mp forms (word, form) listed
    simp only [Bool.and_eq_true, decide_eq_true_eq] at bounds
    obtain ⟨visible, fewer, narrower⟩ := bounds
    have cut : (name.take (name.length - word.length)).length + word.length ≤ name.length := by
      rw [List.length_take]
      omega
    exact ⟨List.take_prefix _ name, visible, by dsimp only; omega, by dsimp only; omega⟩
  · exact ⟨List.prefix_rfl, rfl, Nat.le_refl _, Nat.le_refl _⟩

/-- Each printable character has one small letter. -/
theorem length_lower {s : List Char} (printable : s.all isPrintable = true) :
    (Text.lower s).length = s.length := by
  induction s with
  | nil => rfl
  | cons c s ih =>
      obtain ⟨first, others⟩ : isPrintable c = true ∧ s.all isPrintable = true := by
        simpa only [List.all_cons, Bool.and_eq_true] using printable
      have undotted : c ≠ '\u0130' := by
        rintro rfl
        exact absurd first (by decide)
      rw [Text.lower, List.flatMap_cons, if_neg (by simpa using undotted), List.length_append,
        List.length_singleton, ← Text.lower, ih others, List.length_cons, Nat.add_comm]

/-- The picture of a name is one of the pictures with the form behind it. -/
theorem exists_of_picture? (known : picture? name = some picture) :
    ∃ plain, fitsIn ((Text.lower (splitForm name).1).length + 2) plain = true ∧
      picture = plain ++ (splitForm name).2 := by
  rw [picture?_eq] at known
  obtain ⟨plain, found, rfl⟩ := Option.map_eq_some_iff.mp known
  obtain ⟨before, behind, whole, -⟩ := List.lookup_eq_some_iff.mp found
  have listed : (String.ofList (Text.lower (splitForm name).1), plain) ∈ pictures := by
    rw [whole]
    exact List.mem_append_right before List.mem_cons_self
  have slim := slim_of_mem_pictures listed
  rw [Slim, String.length_ofList] at slim
  exact ⟨plain, slim, rfl⟩

theorem visible_of_picture? (known : picture? name = some picture) :
    picture ≠ [] ∧ picture.all isVisible = true := by
  obtain ⟨plain, slim, rfl⟩ := exists_of_picture? known
  obtain ⟨nonempty, visible, -, -⟩ := fitsIn_iff.mp slim
  obtain ⟨-, formed, -, -⟩ := splitForm_bounds name
  refine ⟨List.append_ne_nil_of_left_ne_nil nonempty _, ?_⟩
  rw [List.all_append, visible, formed]
  rfl

/-- A picture has no more characters than its code and takes no more cells. -/
theorem slim_of_picture? (printable : name.all isPrintable = true)
    (known : picture? name = some picture) :
    picture.length ≤ name.length + 2 ∧ weigh picture ≤ name.length + 2 := by
  obtain ⟨plain, slim, rfl⟩ := exists_of_picture? known
  obtain ⟨-, -, short, narrow⟩ := fitsIn_iff.mp slim
  obtain ⟨front, -, fewer, narrower⟩ := splitForm_bounds name
  have letters : (splitForm name).1.all isPrintable = true :=
    List.all_eq_true.mpr fun c mem => List.all_eq_true.mp printable c (front.subset mem)
  rw [length_lower letters] at short narrow
  rw [List.length_append, weigh_append]
  omega

/-- Where codes are replaced, only the characters of pictures are new. -/
theorem mem_replaceCodes {c : Char} {s : List Char} (h : c ∈ replaceCodes s) :
    c ∈ s ∨ isVisible c = true := by
  induction s using induction_on_codes with
  | nil => exact absurd h (by simp [replaceCodes])
  | code name after found ih =>
      rw [replaceCodes_of_code found, List.mem_append] at h
      rcases h with here | later
      · cases known : picture? name with
        | none =>
            rw [known, Option.getD_none, List.mem_append, List.mem_singleton] at here
            left
            rcases here with inside | rfl
            · exact List.mem_append_left (':' :: after) inside
            · simp
        | some picture =>
            rw [known, Option.getD_some] at here
            exact Or.inr (List.all_eq_true.mp (visible_of_picture? known).2 c here)
      · refine (ih later).imp_left fun old => ?_
        simp [old]
  | single c rest replaced named ih =>
      rw [replaced, List.mem_cons] at h
      rcases h with rfl | later
      · exact Or.inl List.mem_cons_self
      · exact (ih later).imp_left (List.mem_cons_of_mem c)

/-- A text stays as it is if and only if none of its codes has a known name. -/
theorem replaceCodes_eq_self_iff (s : List Char) : replaceCodes s = s ↔ Uncoded s := by
  induction s using induction_on_codes with
  | nil => simp [replaceCodes, Uncoded, codeNames]
  | code name after found ih =>
      rw [replaceCodes_of_code found, Uncoded, codeNames_of_code found]
      cases known : picture? name with
      | none =>
          rw [Uncoded] at ih
          simp [known, ih]
      | some picture =>
          obtain ⟨nonempty, visible⟩ := visible_of_picture? known
          cases picture with
          | nil => exact absurd rfl nonempty
          | cons c form =>
              have apart : c ≠ ':' := by
                rintro rfl
                exact absurd (List.all_eq_true.mp visible ':' List.mem_cons_self) (by decide)
              simp [known, apart]
  | single c rest replaced named ih =>
      rw [replaced, Uncoded, named, List.cons.injEq, ih, Uncoded]
      simp

/-- The pictures in a printable text have no more characters than it and take no more cells. -/
theorem replaceCodes_le {s : List Char} (printable : s.all isPrintable = true) :
    (replaceCodes s).length ≤ s.length ∧ weigh (replaceCodes s) ≤ s.length := by
  induction s using induction_on_codes with
  | nil => simp [replaceCodes]
  | code name after found ih =>
      simp only [List.all_cons, List.all_append, Bool.and_eq_true] at printable
      obtain ⟨colon, letters, -, behind⟩ := printable
      obtain ⟨fewer, narrower⟩ := ih behind
      have first : ((picture? name).getD (':' :: name ++ [':'])).length ≤ name.length + 2 ∧
          weigh ((picture? name).getD (':' :: name ++ [':'])) ≤ name.length + 2 := by
        cases known : picture? name with
        | none =>
            have whole : (':' :: name ++ [':']).all isPrintable = true := by
              rw [List.all_append, List.all_cons, colon, letters]
              decide
            rw [Option.getD_none, weigh_of_printable whole]
            simp
        | some picture => exact slim_of_picture? letters known
      rw [replaceCodes_of_code found, List.length_append, weigh_append, List.length_cons,
        List.length_append, List.length_cons]
      omega
  | single c rest replaced named ih =>
      obtain ⟨first, others⟩ : isPrintable c = true ∧ rest.all isPrintable = true := by
        simpa only [List.all_cons, Bool.and_eq_true] using printable
      obtain ⟨fewer, narrower⟩ := ih others
      rw [replaced, weigh_cons, weight_of_printable first, List.length_cons, List.length_cons]
      omega

/-- A text without colons has no codes. -/
theorem codeNames_of_colon_not_mem {s : List Char} (h : ':' ∉ s) : codeNames s = [] := by
  induction s with
  | nil => rw [codeNames]
  | cons c s ih =>
      have apart : c ≠ ':' := by
        rintro rfl
        exact h List.mem_cons_self
      rw [codeNames_cons_of_ne apart, ih fun mem => h (List.mem_cons_of_mem c mem)]

theorem uncoded_of_colon_not_mem {s : List Char} (h : ':' ∉ s) : Uncoded s := by
  rw [Uncoded, codeNames_of_colon_not_mem h]
  exact List.forall_mem_nil _

end Pictures

section Lines

/-- The codes of a line are replaced on their own. -/
theorem replaceCodes_append_feed (s t : List Char) :
    replaceCodes (s ++ '\n' :: t) = replaceCodes s ++ '\n' :: replaceCodes t := by
  induction s using replaceCodes.induct with
  | case1 =>
      rw [List.nil_append, replaceCodes_cons_of_ne (by decide), replaceCodes.eq_def []]
      rfl
  | case2 c rest colon name after found _ ih =>
      obtain rfl : c = ':' := by simpa using colon
      have longer : codeName? (rest ++ '\n' :: t) = some (name, after ++ '\n' :: t) := by
        rw [codeName?_append_feed, found]
        rfl
      rw [List.cons_append, replaceCodes_of_code longer, replaceCodes_of_code found, ih,
        List.append_assoc]
  | case3 c rest colon unnamed ih =>
      obtain rfl : c = ':' := by simpa using colon
      have longer : codeName? (rest ++ '\n' :: t) = none := by
        rw [codeName?_append_feed, unnamed]
        rfl
      rw [List.cons_append, replaceCodes_of_no_code longer, replaceCodes_of_no_code unnamed, ih,
        List.cons_append]
  | case4 c rest other ih =>
      have apart : c ≠ ':' := by simpa using other
      rw [List.cons_append, replaceCodes_cons_of_ne apart, replaceCodes_cons_of_ne apart, ih,
        List.cons_append]

/-- The lines of a text are replaced one by one. -/
theorem pieces_replaceCodes (s : List Char) :
    Text.pieces (replaceCodes s) = (Text.pieces s).map replaceCodes := by
  simp only [Text.pieces]
  generalize cut : Text.splitOn '\n' s = parts
  induction parts generalizing s with
  | nil => exact absurd cut (Text.splitOn_ne_nil '\n' s)
  | cons part parts ih =>
      obtain ⟨unfed, tail, rfl, behind⟩ := Text.exists_of_splitOn_eq_cons cut
      have first : Text.splitOn '\n' (replaceCodes part) = [replaceCodes part] := by
        refine Text.splitOn_of_not_mem fun mem => ?_
        rcases mem_replaceCodes mem with old | new
        · exact unfed old
        · exact absurd new (by decide)
      cases behind with
      | last => rw [List.append_nil, first, List.map_singleton]
      | marked s =>
          rw [replaceCodes_append_feed, Text.splitOn_append_cons, first, ih s rfl, List.map_cons,
            List.singleton_append]

end Lines

end Runbook.Console

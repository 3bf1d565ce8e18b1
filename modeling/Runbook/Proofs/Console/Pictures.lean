import Runbook.Console.Pictures
import Runbook.Proofs.Console.Width

/-!
# The size of pictures

A picture has some characters, of which none is a control or a colon. It has no more of them than
its code, and takes no more cells than the code. Small pictures are so under any name; the others
have long names, most of them since their names are put together.
-/

namespace Runbook.Console

/-- Whether a character can stand in a picture: it is no control and no colon. -/
def isVisible (c : Char) : Bool := !isControl c && c != ':'

/-- Whether a picture has visible characters, so many at most, and takes at most so many cells. The
cells are only counted where it has too many characters to take two of them each. -/
def fitsIn (size : Nat) (picture : List Char) : Bool :=
  !picture.isEmpty && picture.all isVisible &&
    (2 * picture.length ≤ size || picture.length ≤ size && weigh picture ≤ size)

/-- A picture that takes no more room than its code, which has two colons besides the name. -/
def Slim (entry : String × List Char) : Prop := fitsIn (entry.1.length + 2) entry.2 = true

section Sizes

variable {size other : Nat} {picture second : List Char}

theorem fitsIn_iff : fitsIn size picture = true ↔
    picture ≠ [] ∧ picture.all isVisible = true ∧ picture.length ≤ size ∧ weigh picture ≤ size := by
  have cells := weigh_le picture
  simp only [fitsIn, Bool.and_eq_true, Bool.or_eq_true, decide_eq_true_eq, Bool.not_eq_true',
    List.isEmpty_eq_false_iff, and_assoc]
  refine and_congr_right fun _ => and_congr_right fun _ => ⟨fun room => ?_, Or.inr⟩
  omega

theorem fitsIn_mono (h : fitsIn size picture = true) (le : size ≤ other) :
    fitsIn other picture = true := by
  obtain ⟨nonempty, visible, short, narrow⟩ := fitsIn_iff.mp h
  exact fitsIn_iff.mpr ⟨nonempty, visible, by omega, by omega⟩

theorem fitsIn_append (h : fitsIn size picture = true) (more : fitsIn other second = true) :
    fitsIn (size + other) (picture ++ second) = true := by
  obtain ⟨nonempty, visible, short, narrow⟩ := fitsIn_iff.mp h
  obtain ⟨-, visible', short', narrow'⟩ := fitsIn_iff.mp more
  refine fitsIn_iff.mpr ⟨List.append_ne_nil_of_left_ne_nil nonempty second, ?_, ?_, ?_⟩
  · rw [List.all_append, visible, visible']
    rfl
  · rw [List.length_append]
    omega
  · rw [weigh_append]
    omega

theorem fitsIn_of_length (nonempty : picture ≠ []) (visible : picture.all isVisible = true)
    (short : 2 * picture.length ≤ size) : fitsIn size picture = true := by
  have narrow := weigh_le picture
  exact fitsIn_iff.mpr ⟨nonempty, visible, by omega, by omega⟩

/-- A tone adds one character to a picture, and some of the others stay. -/
theorem fitsIn_inTone {tone : Char} (h : fitsIn size picture = true)
    (visible : isVisible tone = true) (short : 2 * (picture.length + 1) ≤ other) :
    fitsIn other (inTone tone picture) = true := by
  obtain ⟨nonempty, seen, -, -⟩ := fitsIn_iff.mp h
  cases picture with
  | nil => exact absurd rfl nonempty
  | cons c rest =>
      obtain ⟨kept, toned, suffix⟩ : ∃ kept, inTone tone (c :: rest) = c :: tone :: kept ∧
          kept <:+ rest := by
        unfold inTone
        split
        · next nothing => cases nothing
        · next d rest' same =>
          cases same
          exact ⟨rest', rfl, List.suffix_cons _ _⟩
        · next d rest' _ same =>
          cases same
          exact ⟨rest, rfl, List.suffix_rfl⟩
      obtain ⟨first, others⟩ : isVisible c = true ∧ rest.all isVisible = true := by
        simpa only [List.all_cons, Bool.and_eq_true] using seen
      have fewer := suffix.length_le
      rw [toned]
      refine fitsIn_of_length (List.cons_ne_nil c _) ?_ ?_
      · rw [List.all_cons, List.all_cons, first, visible, List.all_eq_true.mpr fun d mem =>
          List.all_eq_true.mp others d (suffix.subset mem)]
        rfl
      · simp only [List.length_cons] at short ⊢
        omega

end Sizes

section Tables

/-- Whether a character is a capital letter from A to Z. -/
def isCapital (c : Char) : Bool := 0x41 ≤ c.toNat && c.toNat ≤ 0x5A

theorem flagParts_fitIn : (List.range 26).all
    (fun n => fitsIn 1 [Char.ofNat (0x1F1E6 + n)]) = true := by decide +kernel

/-- The pictures of one character, the letters of flags and the tones. -/
theorem characters_visible :
    singlePictures.all (fun entry => isVisible entry.2) = true ∧
      (countryFlags ++ otherFlags).all
        (fun entry => isCapital entry.2.1 && isCapital entry.2.2) = true ∧
      skinTones.all (fun tone => isVisible tone.2) = true := by decide +kernel

/-- The name of a joined picture is only looked at if the picture is not small. -/
theorem joined_fitIn :
    joinedPictures.all (fun entry => fitsIn 2 entry.2 || fitsIn 3 entry.2 && entry.1 != "" ||
        fitsIn (entry.1.length + 2) entry.2) = true ∧
      families.all (fun entry => fitsIn 9 (asFamily entry).2) = true := by decide +kernel

theorem people_fitIn :
    persons.all
        (fun entry => fitsIn 2 entry.2 || fitsIn (min 5 (entry.1.length + 2)) entry.2) = true ∧
      (activities.flatMap withSigns ++ professions.flatMap withThing).all
        (fun entry => fitsIn 5 entry.2) = true := by decide +kernel

end Tables

section Names

variable {entry other : String × List Char}

/-- Two letters make a flag, which takes no more room than the colons of a code. -/
theorem slim_flag {first second : Char} (one : isCapital first = true)
    (two : isCapital second = true) (name : String) :
    Slim (name, [flagPart first, flagPart second]) := by
  have part {letter : Char} (capital : isCapital letter = true) :
      fitsIn 1 [flagPart letter] = true := by
    simp only [isCapital, Bool.and_eq_true, decide_eq_true_eq] at capital
    exact List.all_eq_true.mp flagParts_fitIn (letter.toNat - 0x41)
      (List.mem_range.mpr (by omega))
  exact fitsIn_mono (fitsIn_append (part one) (part two)) (Nat.le_add_left 2 name.length)

/-- A man and a woman have names long enough for five characters. -/
theorem slim_of_fitsIn_five {kind : String} (long : 3 ≤ kind.length) (name : String)
    {picture : List Char} (five : fitsIn 5 picture = true) :
    Slim (kind ++ name, picture) ∧ picture.length ≤ 5 := by
  obtain ⟨-, -, short, -⟩ := fitsIn_iff.mp five
  refine ⟨fitsIn_mono five ?_, short⟩
  rw [String.length_append]
  omega

theorem slim_people (h : entry ∈ people) : Slim entry ∧ entry.2.length ≤ 5 := by
  simp only [people, List.mem_append] at h
  obtain (person | active) | working := h
  · have parts := List.all_eq_true.mp people_fitIn.1 entry person
    rw [Bool.or_eq_true] at parts
    obtain small | long := parts
    · obtain ⟨-, -, short, -⟩ := fitsIn_iff.mp small
      exact ⟨fitsIn_mono small (Nat.le_add_left 2 _), by omega⟩
    · obtain ⟨-, -, short, -⟩ := fitsIn_iff.mp long
      exact ⟨fitsIn_mono long (Nat.min_le_right 5 _), by omega⟩
  · have five := List.all_eq_true.mp people_fitIn.2 entry (List.mem_append_left _ active)
    obtain ⟨⟨name, picture⟩, -, signed⟩ := List.mem_flatMap.mp active
    simp only [withSigns, List.mem_cons, List.not_mem_nil, or_false] at signed
    obtain rfl | rfl := signed
    · exact slim_of_fitsIn_five (by decide : 3 ≤ "man_".length) name five
    · exact slim_of_fitsIn_five (by decide : 3 ≤ "woman_".length) name five
  · have five := List.all_eq_true.mp people_fitIn.2 entry (List.mem_append_right _ working)
    obtain ⟨⟨name, thing⟩, -, paired⟩ := List.mem_flatMap.mp working
    simp only [withThing, List.mem_cons, List.not_mem_nil, or_false] at paired
    obtain rfl | rfl := paired
    · exact slim_of_fitsIn_five (by decide : 3 ≤ "man_".length) name five
    · exact slim_of_fitsIn_five (by decide : 3 ≤ "woman_".length) name five

theorem slim_withTones (slim : Slim entry) (short : entry.2.length ≤ 5)
    (h : other ∈ withTones entry) : Slim other := by
  obtain rfl | toned := List.mem_cons.mp h
  · exact slim
  · obtain ⟨⟨tone, c⟩, listed, rfl⟩ := List.mem_map.mp toned
    have visible : isVisible c = true :=
      List.all_eq_true.mp characters_visible.2.2 (tone, c) listed
    have named : "_skin_tone".length = 10 := by decide
    refine fitsIn_inTone slim visible ?_
    simp only [String.length_append, named]
    omega

theorem slim_of_mem_joinedPictures (h : entry ∈ joinedPictures) : Slim entry := by
  have parts := List.all_eq_true.mp joined_fitIn.1 entry h
  simp only [Bool.or_eq_true, Bool.and_eq_true, bne_iff_ne] at parts
  obtain (small | ⟨three, named⟩) | long := parts
  · exact fitsIn_mono small (Nat.le_add_left 2 _)
  · have filled : entry.1.length ≠ 0 := fun empty => named (String.length_eq_zero_iff.mp empty)
    exact fitsIn_mono three (by omega)
  · exact long

theorem capitals {flag : String × Char × Char} (h : flag ∈ countryFlags ++ otherFlags) :
    isCapital flag.2.1 = true ∧ isCapital flag.2.2 = true := by
  simpa only [Bool.and_eq_true] using List.all_eq_true.mp characters_visible.2.1 flag h

/-- All pictures have visible characters only, and take no more room than their codes. -/
theorem slim_of_mem_pictures (h : entry ∈ pictures) : Slim entry := by
  simp only [pictures, List.mem_append] at h
  obtain ((((single | country) | other) | joined) | family) | person := h
  · obtain ⟨⟨name, c⟩, listed, rfl⟩ := List.mem_map.mp single
    have visible : isVisible c = true :=
      List.all_eq_true.mp characters_visible.1 (name, c) listed
    exact fitsIn_of_length (List.cons_ne_nil c []) (by simp [visible]) (Nat.le_add_left 2 _)
  · obtain ⟨⟨name, first, second⟩, listed, named⟩ := List.mem_flatMap.mp country
    obtain ⟨one, two⟩ := capitals (List.mem_append_left otherFlags listed)
    simp only [withLongName, List.mem_cons, List.not_mem_nil, or_false] at named
    obtain rfl | rfl := named
    · exact slim_flag one two name
    · exact slim_flag one two ("flag_for_" ++ name)
  · obtain ⟨⟨name, first, second⟩, listed, rfl⟩ := List.mem_map.mp other
    obtain ⟨one, two⟩ := capitals (List.mem_append_right countryFlags listed)
    exact slim_flag one two name
  · exact slim_of_mem_joinedPictures joined
  · obtain ⟨⟨name, members⟩, listed, rfl⟩ := List.mem_map.mp family
    refine fitsIn_mono (List.all_eq_true.mp joined_fitIn.2 (name, members) listed) ?_
    have named : "family_".length = 7 := by decide
    simp only [asFamily, String.length_append, named]
    omega
  · obtain ⟨base, listed, toned⟩ := List.mem_flatMap.mp person
    obtain ⟨slim, short⟩ := slim_people listed
    exact slim_withTones slim short toned

end Names

end Runbook.Console

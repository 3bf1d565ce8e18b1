import Runbook.Text.Blank

/-!
# Patterns

A pattern describes the front of a text part by part. A run of characters may be cut short anywhere,
so that one text can be divided among the parts in many ways. The ways are tried in an order, in
which a greedy run prefers to be long and any other run prefers to be short. Whatever the order, the
ways that are tried are all divisions in which every part fits.
-/

namespace Runbook.Text

/-- A pattern. A run takes any number of characters that it accepts, a group keeps what it covers,
and `finish` stands at the end of a text or before its last line feed. -/
inductive Pattern where
  | literal (s : List Char)
  | single (accepts : Char → Bool)
  | run (greedy : Bool) (accepts : Char → Bool)
  | optional (pattern : Pattern)
  | group (pattern : Pattern)
  | seq (first second : Pattern)
  | finish

/-- A way in which a pattern fits the front of a text: what it covers, what its groups keep, and the
rest of the text. -/
structure Way where
  covered : List Char
  groups : List (List Char)
  rest : List Char
  deriving DecidableEq, Repr

/-- The cuts of a text behind characters that are accepted, the nearest first. -/
def cuts (accepts : Char → Bool) : List Char → List (List Char × List Char)
  | [] => [([], [])]
  | c :: text =>
    ([], c :: text) ::
      if accepts c then (cuts accepts text).map fun cut => (c :: cut.1, cut.2) else []

theorem mem_cuts_iff {accepts : Char → Bool} {text front rest : List Char} :
    (front, rest) ∈ cuts accepts text ↔ text = front ++ rest ∧ ∀ c ∈ front, accepts c = true := by
  induction text generalizing front with
  | nil =>
      rw [cuts, List.mem_singleton, eq_comm (a := []), List.append_eq_nil_iff, Prod.mk.injEq]
      constructor
      · rintro ⟨rfl, rfl⟩
        exact ⟨⟨rfl, rfl⟩, by simp⟩
      · exact And.left
  | cons c text ih =>
      cases front with
      | nil =>
          cases h : accepts c <;> simp [cuts, h, eq_comm (a := rest)]
      | cons d front =>
          rw [List.cons_append, List.cons.injEq, List.forall_mem_cons]
          cases h : accepts c with
          | false =>
              constructor
              · simp [cuts, h]
              · rintro ⟨⟨rfl, -⟩, accepted, -⟩
                rw [h] at accepted
                cases accepted
          | true =>
              rw [cuts, if_pos h]
              constructor
              · intro mem
                obtain ⟨cut, stands, same⟩ : ∃ cut ∈ cuts accepts text,
                    (c :: cut.1, cut.2) = (d :: front, rest) := by simpa using mem
                cases same
                obtain ⟨whole, accepted⟩ := ih.mp stands
                exact ⟨⟨rfl, whole⟩, h, accepted⟩
              · rintro ⟨⟨rfl, whole⟩, -, accepted⟩
                apply List.mem_cons_of_mem
                exact List.mem_map.mpr ⟨(front, rest), ih.mpr ⟨whole, accepted⟩, rfl⟩

namespace Pattern

/-- The parts one behind the other. -/
def sequence (parts : List Pattern) : Pattern := parts.foldr seq (literal [])

/-- The ways in which a pattern fits the front of a text, in the order in which they are tried. -/
def ways : Pattern → List Char → List Way
  | literal s, text => if s.isPrefixOf text then [⟨s, [], text.drop s.length⟩] else []
  | single _, [] => []
  | single accepts, c :: text => if accepts c then [⟨[c], [], text⟩] else []
  | run greedy accepts, text =>
    let shortestFirst := (cuts accepts text).map fun cut => ⟨cut.1, [], cut.2⟩
    if greedy then shortestFirst.reverse else shortestFirst
  | optional pattern, text => pattern.ways text ++ [⟨[], [], text⟩]
  | group pattern, text =>
    (pattern.ways text).map fun way => { way with groups := way.covered :: way.groups }
  | seq first second, text =>
    (first.ways text).flatMap fun way => (second.ways way.rest).map fun next =>
      ⟨way.covered ++ next.covered, way.groups ++ next.groups, next.rest⟩
  | finish, text => if text = [] ∨ text = ['\n'] then [⟨[], [], text⟩] else []

/-- A pattern covers a text that stands before a rest, and its groups keep the given texts. -/
def Fits : Pattern → List Char → List (List Char) → List Char → Prop
  | literal s, covered, groups, _ => covered = s ∧ groups = []
  | single accepts, covered, groups, _ => (∃ c, accepts c = true ∧ covered = [c]) ∧ groups = []
  | run _ accepts, covered, groups, _ => (∀ c ∈ covered, accepts c = true) ∧ groups = []
  | optional pattern, covered, groups, rest =>
    pattern.Fits covered groups rest ∨ covered = [] ∧ groups = []
  | group pattern, covered, groups, rest =>
    ∃ inner, groups = covered :: inner ∧ pattern.Fits covered inner rest
  | seq first second, covered, groups, rest =>
    ∃ front back kept later, covered = front ++ back ∧ groups = kept ++ later ∧
      first.Fits front kept (back ++ rest) ∧ second.Fits back later rest
  | finish, covered, groups, rest => (rest = [] ∨ rest = ['\n']) ∧ covered = [] ∧ groups = []

section Ways

variable {text : List Char} {way : Way}

theorem mem_ways_literal_iff {s : List Char} :
    way ∈ (literal s).ways text ↔
      text = way.covered ++ way.rest ∧ way.covered = s ∧ way.groups = [] := by
  obtain ⟨covered, groups, rest⟩ := way
  rw [ways]
  split
  · next stands =>
    obtain ⟨later, rfl⟩ := List.isPrefixOf_iff_prefix.mp stands
    simp only [List.mem_singleton, Way.mk.injEq, List.drop_left]
    constructor
    · rintro ⟨rfl, rfl, rfl⟩
      exact ⟨rfl, rfl, rfl⟩
    · rintro ⟨whole, rfl, rfl⟩
      exact ⟨rfl, rfl, (List.append_cancel_left whole).symm⟩
  · next apart =>
    constructor
    · intro mem
      cases mem
    · rintro ⟨rfl, rfl, -⟩
      exact absurd (List.isPrefixOf_iff_prefix.mpr (List.prefix_append ..)) apart

theorem mem_ways_single_iff {accepts : Char → Bool} :
    way ∈ (single accepts).ways text ↔
      text = way.covered ++ way.rest ∧ (∃ c, accepts c = true ∧ way.covered = [c]) ∧
        way.groups = [] := by
  obtain ⟨covered, groups, rest⟩ := way
  constructor
  · intro mem
    cases text with
    | nil => cases mem
    | cons c text =>
        cases h : accepts c with
        | false => simp [ways, h] at mem
        | true =>
            obtain ⟨rfl, rfl, rfl⟩ : covered = [c] ∧ groups = [] ∧ rest = text := by
              simpa [ways, h] using mem
            exact ⟨rfl, ⟨c, h, rfl⟩, rfl⟩
  · rintro ⟨rfl, ⟨c, h, rfl⟩, rfl⟩
    simp [ways, h]

theorem mem_ways_run_iff {greedy : Bool} {accepts : Char → Bool} :
    way ∈ (run greedy accepts).ways text ↔
      text = way.covered ++ way.rest ∧ (∀ c ∈ way.covered, accepts c = true) ∧
        way.groups = [] := by
  obtain ⟨covered, groups, rest⟩ := way
  have fromCut : ⟨covered, groups, rest⟩ ∈
      (cuts accepts text).map (fun cut => (⟨cut.1, [], cut.2⟩ : Way)) ↔
        (covered, rest) ∈ cuts accepts text ∧ groups = [] := by
    rw [List.mem_map]
    constructor
    · rintro ⟨cut, mem, same⟩
      cases same
      exact ⟨mem, rfl⟩
    · rintro ⟨mem, rfl⟩
      exact ⟨_, mem, rfl⟩
  have mem : ⟨covered, groups, rest⟩ ∈ (run greedy accepts).ways text ↔
      (covered, rest) ∈ cuts accepts text ∧ groups = [] := by
    cases greedy with
    | false => exact fromCut
    | true => exact List.mem_reverse.trans fromCut
  rw [mem, mem_cuts_iff, and_assoc]

theorem mem_ways_finish_iff :
    way ∈ finish.ways text ↔
      text = way.covered ++ way.rest ∧ (way.rest = [] ∨ way.rest = ['\n']) ∧
        way.covered = [] ∧ way.groups = [] := by
  obtain ⟨covered, groups, rest⟩ := way
  rw [ways]
  split
  · next last =>
    simp only [List.mem_singleton, Way.mk.injEq]
    constructor
    · rintro ⟨rfl, rfl, rfl⟩
      exact ⟨rfl, last, rfl, rfl⟩
    · rintro ⟨rfl, -, rfl, rfl⟩
      exact ⟨rfl, rfl, rfl⟩
  · next more =>
    constructor
    · intro mem
      cases mem
    · rintro ⟨rfl, last, rfl, -⟩
      exact absurd last more

/-- The ways that are tried are the divisions in which the pattern fits. -/
theorem mem_ways_iff {pattern : Pattern} :
    way ∈ pattern.ways text ↔
      text = way.covered ++ way.rest ∧ pattern.Fits way.covered way.groups way.rest := by
  induction pattern generalizing text way with
  | literal s => exact mem_ways_literal_iff
  | single accepts => exact mem_ways_single_iff
  | run greedy accepts => exact mem_ways_run_iff
  | finish => exact mem_ways_finish_iff
  | optional pattern ih =>
      obtain ⟨covered, groups, rest⟩ := way
      rw [ways, List.mem_append, ih, List.mem_singleton, Way.mk.injEq, Fits, and_or_left]
      apply or_congr Iff.rfl
      constructor
      · rintro ⟨rfl, rfl, rfl⟩
        exact ⟨rfl, rfl, rfl⟩
      · rintro ⟨rfl, rfl, rfl⟩
        exact ⟨rfl, rfl, rfl⟩
  | group pattern ih =>
      rw [ways, List.mem_map]
      constructor
      · rintro ⟨inner, mem, rfl⟩
        obtain ⟨whole, fits⟩ := ih.mp mem
        exact ⟨whole, inner.groups, rfl, fits⟩
      · rintro ⟨whole, inner, kept, fits⟩
        refine ⟨⟨way.covered, inner, way.rest⟩, ih.mpr ⟨whole, fits⟩, ?_⟩
        rw [← kept]
  | seq first second ih ih' =>
      rw [ways, List.mem_flatMap]
      constructor
      · rintro ⟨front, mem, more⟩
        obtain ⟨back, mem', rfl⟩ := List.mem_map.mp more
        obtain ⟨whole, fits⟩ := ih.mp mem
        obtain ⟨left, fits'⟩ := ih'.mp mem'
        refine ⟨?_, front.covered, back.covered, front.groups, back.groups, rfl, rfl, ?_, fits'⟩
        · rw [whole, left, List.append_assoc]
        · rwa [← left]
      · rintro ⟨whole, front, back, kept, later, covered, groups, fits, fits'⟩
        refine ⟨⟨front, kept, back ++ way.rest⟩, ih.mpr ⟨?_, fits⟩, ?_⟩
        · rw [whole, covered, List.append_assoc]
        · apply List.mem_map.mpr
          refine ⟨⟨back, later, way.rest⟩, ih'.mpr ⟨rfl, fits'⟩, ?_⟩
          rw [← covered, ← groups]

end Ways

section Sequence

variable {covered rest : List Char} {groups : List (List Char)} {others : List Pattern}

theorem fits_literal_cons_iff {s : List Char} :
    (sequence (literal s :: others)).Fits covered groups rest ↔
      ∃ back, covered = s ++ back ∧ (sequence others).Fits back groups rest := by
  constructor
  · rintro ⟨_, back, _, _, rfl, rfl, ⟨rfl, rfl⟩, fits⟩
    exact ⟨back, rfl, fits⟩
  · rintro ⟨back, rfl, fits⟩
    exact ⟨s, back, [], groups, rfl, rfl, ⟨rfl, rfl⟩, fits⟩

theorem fits_single_cons_iff {accepts : Char → Bool} :
    (sequence (single accepts :: others)).Fits covered groups rest ↔
      ∃ c back, covered = c :: back ∧ accepts c = true ∧ (sequence others).Fits back groups rest := by
  constructor
  · rintro ⟨_, back, _, _, rfl, rfl, ⟨⟨c, accepted, rfl⟩, rfl⟩, fits⟩
    exact ⟨c, back, rfl, accepted, fits⟩
  · rintro ⟨c, back, rfl, accepted, fits⟩
    exact ⟨[c], back, [], groups, rfl, rfl, ⟨⟨c, accepted, rfl⟩, rfl⟩, fits⟩

theorem fits_run_cons_iff {greedy : Bool} {accepts : Char → Bool} :
    (sequence (run greedy accepts :: others)).Fits covered groups rest ↔
      ∃ front back, covered = front ++ back ∧ (∀ c ∈ front, accepts c = true) ∧
        (sequence others).Fits back groups rest := by
  constructor
  · rintro ⟨front, back, _, _, rfl, rfl, ⟨accepted, rfl⟩, fits⟩
    exact ⟨front, back, rfl, accepted, fits⟩
  · rintro ⟨front, back, rfl, accepted, fits⟩
    exact ⟨front, back, [], groups, rfl, rfl, ⟨accepted, rfl⟩, fits⟩

/-- A part that keeps what it covers gives the first group. -/
theorem fits_kept_cons_iff {part : Pattern} {Covers : List Char → Prop}
    (keeps : ∀ {covered groups rest},
      part.Fits covered groups rest ↔ Covers covered ∧ groups = [covered]) :
    (sequence (part :: others)).Fits covered groups rest ↔
      ∃ front back later, covered = front ++ back ∧ groups = front :: later ∧ Covers front ∧
        (sequence others).Fits back later rest := by
  constructor
  · rintro ⟨front, back, kept, later, rfl, rfl, fits, fits'⟩
    obtain ⟨covers, rfl⟩ := keeps.mp fits
    exact ⟨front, back, later, rfl, rfl, covers, fits'⟩
  · rintro ⟨front, back, later, rfl, rfl, covers, fits⟩
    exact ⟨front, back, [front], later, rfl, rfl, keeps.mpr ⟨covers, rfl⟩, fits⟩

theorem fits_sequence_nil_iff :
    (sequence []).Fits covered groups rest ↔ covered = [] ∧ groups = [] := Iff.rfl

theorem fits_sequence_finish_iff :
    (sequence [finish]).Fits covered groups rest ↔
      (rest = [] ∨ rest = ['\n']) ∧ covered = [] ∧ groups = [] := by
  constructor
  · rintro ⟨_, _, _, _, rfl, rfl, ⟨last, rfl, rfl⟩, rfl, rfl⟩
    exact ⟨last, rfl, rfl⟩
  · rintro ⟨last, rfl, rfl⟩
    exact ⟨[], [], [], [], rfl, rfl, ⟨last, rfl, rfl⟩, rfl, rfl⟩

end Sequence

end Pattern

end Runbook.Text

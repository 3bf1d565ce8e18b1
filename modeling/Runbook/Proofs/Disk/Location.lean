import Runbook.Disk.Tree
import Runbook.Proofs.Text.Lines

/-!
# Places that paths lead to

A text is followed from a place component by component: an empty one and a dot stay, two dots lead
up, and every other one leads down. A path keeps what counts of this, so that it leads where its
text does, and a disk follows a text to no other place. The text of a path spells the path again.
-/

namespace Runbook

namespace Path

/-- The place that a text leads to from another one, component by component. -/
def walk (place : Location) (text : String) : Location :=
  (Text.splitString '/' text).foldl enter place

/-- The place from which a path is followed. -/
def start (directory : Location) (path : Path) : Location :=
  if path.isAbsolute then [] else directory

/-- Every name of a place leads down. -/
def IsProper (place : Location) : Prop :=
  ∀ name ∈ place, counts name = true ∧ name ≠ ".." ∧ '/' ∉ name.toList

section Steps

variable {place : Location} {name : String}

theorem enter_of_not_counts (h : counts name = false) : enter place name = place := by
  have apart : name ≠ ".." := by
    rintro rfl
    exact absurd h (by decide)
  simp [enter, apart, h]

theorem enter_of_counts (h : counts name = true) (down : name ≠ "..") :
    enter place name = place ++ [name] := by
  simp [enter, down, h]

theorem IsProper.enter (h : IsProper place) (unslashed : '/' ∉ name.toList) :
    IsProper (enter place name) := by
  unfold Path.enter
  split
  · exact fun other mem => h other (List.dropLast_subset place mem)
  · next down =>
    split
    · next counted =>
      intro other mem
      obtain mem | mem := List.mem_append.mp mem
      · exact h other mem
      · obtain rfl := List.mem_singleton.mp mem
        exact ⟨counted, down, unslashed⟩
    · exact h

/-- Steps along names without slashes lead from places to places. -/
theorem IsProper.foldl_enter {names : List String} (h : IsProper place)
    (unslashed : ∀ name ∈ names, '/' ∉ name.toList) : IsProper (names.foldl Path.enter place) := by
  induction names generalizing place with
  | nil => exact h
  | cons name names ih =>
      obtain ⟨own, others⟩ := List.forall_mem_cons.mp unslashed
      exact ih (h.enter own) others

/-- Names that do not count take no step. -/
theorem foldl_enter_filter (place : Location) (names : List String) :
    (names.filter counts).foldl enter place = names.foldl enter place := by
  rw [List.foldl_filter]
  congr 1
  funext place name
  split
  · rfl
  · next uncounted => exact (enter_of_not_counts (by simpa using uncounted)).symm

/-- The names of a place lead down to it. -/
theorem IsProper.foldl_enter_eq (h : IsProper place) (start : Location) :
    place.foldl Path.enter start = start ++ place := by
  induction place generalizing start with
  | nil => simp
  | cons name names ih =>
      obtain ⟨⟨counted, down, -⟩, others⟩ := List.forall_mem_cons.mp h
      rw [List.foldl_cons, enter_of_counts counted down, ih others]
      simp

end Steps

section Spelling

theorem unslashed_of_mem_splitString {text name : String}
    (mem : name ∈ Text.splitString '/' text) : '/' ∉ name.toList := by
  obtain ⟨part, found, rfl⟩ := List.mem_map.mp mem
  rw [String.toList_ofList]
  exact Text.not_mem_of_mem_splitOn found

/-- A text has a last component. -/
theorem exists_splitString_eq_concat (text : String) :
    ∃ names name, Text.splitString '/' text = names ++ [name] := by
  have nonempty : Text.splitString '/' text ≠ [] := by
    simpa [Text.splitString] using Text.splitOn_ne_nil '/' text.toList
  exact ⟨_, _, (List.dropLast_concat_getLast nonempty).symm⟩

/-- A path leads where its text does. -/
theorem foldl_enter_names_ofText (place : Location) (text : String) :
    (ofText text).names.foldl enter place = walk place text := foldl_enter_filter _ _

theorem isAbsolute_ofText_iff {text : String} :
    (ofText text).isAbsolute = true ↔ text.toList.head? = some '/' := by
  cases chars : text.toList with
  | nil => simp [isAbsolute, ofText, chars, leadingSlashes]
  | cons c rest =>
      by_cases slash : c = '/'
      · subst slash
        have some : leadingSlashes ('/' :: rest) ≠ 0 := by
          rw [leadingSlashes, List.takeWhile_cons_of_pos rfl, List.length_cons]
          split <;> omega
        simp [isAbsolute, ofText, chars, some]
      · simp [isAbsolute, ofText, chars, leadingSlashes, slash]

/-- A path as it is read from a text. -/
structure IsNormal (path : Path) : Prop where
  slashes : path.slashes ≤ 2
  names : ∀ name ∈ path.names, counts name = true ∧ '/' ∉ name.toList

theorem isNormal_ofText (text : String) : (ofText text).IsNormal := by
  constructor
  · simp only [ofText, leadingSlashes]
    split <;> omega
  · intro name mem
    obtain ⟨mem, counted⟩ := List.mem_filter.mp mem
    exact ⟨counted, unslashed_of_mem_splitString mem⟩

theorem IsProper.isNormal_ofLocation {place : Location} (h : IsProper place) :
    (ofLocation place).IsNormal := by
  constructor
  · simp [ofLocation]
  · intro name mem
    obtain ⟨counted, -, unslashed⟩ := h name mem
    exact ⟨counted, unslashed⟩

theorem leadingSlashes_replicate_append {count : Nat} (bound : count ≤ 2) {s : List Char}
    (other : s.head? ≠ some '/') : leadingSlashes (List.replicate count '/' ++ s) = count := by
  have taken : (List.replicate count '/' ++ s).takeWhile (· == '/') =
      List.replicate count '/' := by
    rw [List.takeWhile_append_of_pos (by simp)]
    cases s with
    | nil => simp
    | cons c s =>
        have apart : c ≠ '/' := fun same => other (by simp [same])
        simp [apart]
  simp only [leadingSlashes, taken, List.length_replicate]
  split <;> omega

theorem toList_text {path : Path} (named : path.names ≠ []) :
    path.text.toList =
      List.replicate path.slashes '/' ++ ['/'].intercalate (path.names.map String.toList) := by
  rw [text, if_neg fun none => named none.2, String.toList_append, String.toList_ofList,
    String.toList_intercalate]
  rfl

/-- The text of a path spells the path. -/
theorem IsNormal.ofText_text {path : Path} (h : path.IsNormal) : ofText path.text = path := by
  obtain ⟨slashes, names⟩ := path
  obtain ⟨bound, proper⟩ := h
  cases names with
  | nil =>
      obtain rfl | rfl | rfl : slashes = 0 ∨ slashes = 1 ∨ slashes = 2 := by
        simp only at bound
        omega
      all_goals decide
  | cons name names =>
      have counted : (name :: names).filter counts = name :: names :=
        List.filter_eq_self.mpr fun other mem => (proper other mem).1
      have unslashed : ∀ part ∈ (name :: names).map String.toList, '/' ∉ part := by
        intro part mem
        obtain ⟨other, found, rfl⟩ := List.mem_map.mp mem
        exact (proper other found).2
      have first : (['/'].intercalate ((name :: names).map String.toList)).head? ≠ some '/' := by
        obtain ⟨count, plain⟩ := proper name List.mem_cons_self
        cases letters : name.toList with
        | nil =>
            obtain rfl : name = "" := String.toList_inj.mp letters
            exact absurd count (by decide)
        | cons c rest =>
            rw [letters] at plain
            rw [List.map_cons, letters, List.intercalate_cons_cons_left, List.head?_cons]
            rintro ⟨⟩
            exact plain List.mem_cons_self
      have named : (⟨slashes, name :: names⟩ : Path).names ≠ [] := List.cons_ne_nil name names
      have chars := toList_text named
      have spelled : Text.splitString '/' (text ⟨slashes, name :: names⟩) =
          List.replicate slashes "" ++ name :: names := by
        rw [Text.splitString, chars, Text.splitOn_replicate_append,
          Text.splitOn_intercalate (by simp) unslashed]
        simp
      have skipped : (List.replicate slashes "").filter counts = [] := by
        simp [counts]
      rw [ofText, chars, leadingSlashes_replicate_append bound first, spelled,
        List.filter_append, skipped, counted, List.nil_append]

end Spelling

end Path

namespace Disk

variable {disk : Disk} {directory place : Location} {text : String}

/-- Whatever stands on a disk stands in a directory. -/
def IsTree (disk : Disk) : Prop :=
  ∀ place, (disk.lookup place).isSome = true → disk.lookup place.dropLast = some .directory

theorem isTree_of_entries (h : ∀ entry ∈ disk.entries,
    disk.lookup entry.1.dropLast = some .directory) : disk.IsTree := by
  intro place some
  by_cases root : place = []
  · simp [root, lookup]
  · rw [lookup, if_neg root] at some
    obtain ⟨entry, found⟩ := Option.isSome_iff_exists.mp some
    obtain ⟨before, behind, whole, -⟩ := List.lookup_eq_some_iff.mp found
    exact h (place, entry) (by rw [whole]; simp)

theorem lookup_of_checkDirectory {u : Unit} (h : disk.checkDirectory place = .ok u) :
    disk.lookup place = some .directory := by
  unfold checkDirectory at h
  split at h
  · next found => exact found
  · cases h
  · cases h

/-- A name is followed from a directory. -/
theorem walk_cons_eq_ok {name : String} {names : List String} {found : Location}
    (h : disk.walk place (name :: names) = .ok found) :
    disk.lookup place = some .directory ∧
      disk.walk (Path.enter place name) names = .ok found := by
  rw [walk] at h
  cases check : disk.checkDirectory place with
  | error error =>
      rw [check] at h
      cases h
  | ok _ =>
      rw [check] at h
      have named : (if maxNameBytes < name.utf8ByteSize then .error .nameTooLong
          else disk.walk (Path.enter place name) names) = .ok found := h
      split at named
      · cases named
      · exact ⟨lookup_of_checkDirectory check, named⟩

/-- The last of some names is followed from a directory, to which the names before it lead. -/
theorem walk_concat_eq_ok {names : List String} {name : String} {found : Location}
    (h : disk.walk place (names ++ [name]) = .ok found) :
    disk.lookup (names.foldl Path.enter place) = some .directory ∧
      found = Path.enter (names.foldl Path.enter place) name := by
  induction names generalizing place with
  | nil =>
      obtain ⟨directory, walked⟩ := walk_cons_eq_ok h
      rw [walk] at walked
      exact ⟨directory, (Except.ok.inj walked).symm⟩
  | cons first names ih =>
      obtain ⟨-, walked⟩ := walk_cons_eq_ok h
      exact ih walked

theorem front_eq_slash (text : String) :
    (text.front == '/') = (Path.ofText text).isAbsolute := by
  rw [Bool.eq_iff_iff, Path.isAbsolute_ofText_iff, String.front_eq, String.front?_eq]
  cases text.toList <;> simp

theorem walk_of_find (h : disk.find directory text = .ok place) :
    disk.walk (Path.start directory (.ofText text)) (Text.splitString '/' text) = .ok place := by
  unfold find at h
  rw [front_eq_slash] at h
  split at h
  · cases h
  · split at h
    · cases h
    · split at h
      · cases h
      · exact h

theorem lookup_of_stat {entry : DiskEntry} (h : disk.stat directory text = .ok (place, entry)) :
    disk.find directory text = .ok place ∧ disk.lookup place = some entry := by
  unfold stat at h
  cases found : disk.find directory text with
  | error error =>
      rw [found] at h
      cases h
  | ok other =>
      rw [found] at h
      cases stands : disk.lookup other with
      | none =>
          simp only [bind, Except.bind, stands] at h
          cases h
      | some entry =>
          simp only [bind, Except.bind, stands] at h
          cases h
          exact ⟨rfl, stands⟩

/-- Where a text leads to a file, its last component leads down to it: the others lead to a
directory. -/
theorem exists_of_stat_file (tree : disk.IsTree) {bytes : List UInt8} {executable : Bool}
    (h : disk.stat directory text = .ok (place, .file bytes executable)) :
    ∃ names name, Text.splitString '/' text = names ++ [name] ∧ Path.counts name = true ∧
      place = names.foldl Path.enter (Path.start directory (.ofText text)) ++ [name] := by
  obtain ⟨found, stands⟩ := lookup_of_stat h
  obtain ⟨names, name, whole⟩ := Path.exists_splitString_eq_concat text
  have walked := walk_of_find found
  rw [whole] at walked
  obtain ⟨around, entered⟩ := walk_concat_eq_ok walked
  refine ⟨names, name, whole, ?_⟩
  generalize names.foldl Path.enter (Path.start directory (.ofText text)) = inner at around entered ⊢
  by_cases up : name = ".."
  · -- Two dots lead to the directory around a directory.
    subst up
    have above : place = inner.dropLast := entered
    rw [above, tree inner (by simp [around])] at stands
    cases stands
  · cases counted : Path.counts name with
    | true => exact ⟨rfl, entered.trans (Path.enter_of_counts counted up)⟩
    | false =>
        rw [entered, Path.enter_of_not_counts counted, around] at stands
        cases stands

/-- A disk follows a text to no other place than its components lead to. -/
theorem eq_walk_of_find (h : disk.find directory text = .ok place) :
    place = Path.walk (Path.start directory (.ofText text)) text := by
  have walked := walk_of_find h
  obtain ⟨names, name, whole⟩ := Path.exists_splitString_eq_concat text
  rw [whole] at walked
  rw [Path.walk, whole, (walk_concat_eq_ok walked).2]
  simp

/-- The directory of a path leads to the directory of the file that the path leads to. -/
theorem locate_parent_of_stat_file (tree : disk.IsTree) {path : Path} (normal : path.IsNormal)
    {bytes : List UInt8} {executable : Bool}
    (h : disk.stat directory path.text = .ok (place, .file bytes executable)) :
    path.parent.locate directory = place.dropLast := by
  obtain ⟨names, name, whole, counted, rfl⟩ := exists_of_stat_file tree h
  have own : path.names = (names ++ [name]).filter Path.counts := by
    rw [← whole]
    exact congrArg Path.names normal.ofText_text.symm
  have others : path.names.dropLast = names.filter Path.counts := by
    rw [own, List.filter_append, List.filter_cons_of_pos counted]
    simp
  rw [normal.ofText_text, List.dropLast_concat, Path.locate, Path.parent, others,
    Path.foldl_enter_filter]
  rfl

end Disk

end Runbook

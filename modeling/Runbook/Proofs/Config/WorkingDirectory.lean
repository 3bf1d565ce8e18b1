import Runbook.Config.Settings
import Runbook.Proofs.Disk.Location
import Runbook.Proofs.Schema.Checked
import Runbook.Proofs.Text.Utf8

/-!
# The working directory of a run

A settings file may give the working directory by a relative text, which is meant from the
directory of the file. The settings then hold the place that the text leads to from there. How the
path of the file and the text are spelled makes no difference, and the place written back into the
file stays as it is.

## Implementation notes

A disk has no links, so that a place has one way from the root. That the path of a file and its
directory agree needs that whatever stands on a disk stands in a directory (`Disk.IsTree`).
-/

namespace Runbook

namespace Settings

/-- The name of the entry of the working directory. -/
def directoryName : String := "working_dir"

/-- The table of a settings file gives a text as the working directory. -/
def GivesDirectory (table : Toml.Table) (text : String) : Prop :=
  ∃ fields, Value.find? (.str tableName) table = some (.map fields) ∧
    Value.find? (.str directoryName) fields = some (.scalar (.str text))

/-- The table of a settings file with a text as the working directory in place of the old one. -/
def withDirectory (text : String) (table : Toml.Table) : Toml.Table :=
  match Value.find? (.str tableName) table with
  | some (.map fields) =>
    Value.setEntry (.str tableName)
      (.map (Value.setEntry (.str directoryName) (.scalar (.str text)) fields)) table
  | _ => table

section Tables

variable {table : Toml.Table} {text : String}

theorem GivesDirectory.withDirectory (h : GivesDirectory table text) (other : String) :
    GivesDirectory (withDirectory other table) other := by
  obtain ⟨fields, found, -⟩ := h
  refine ⟨Value.setEntry (.str directoryName) (.scalar (.str other)) fields, ?_, ?_⟩
  · simp only [Settings.withDirectory, found]
    exact Value.find?_setEntry_self ..
  · exact Value.find?_setEntry_self ..

/-- Settings are read from the entries of their table. -/
theorem ofValue_map_eq_ok_iff {fields : List (Scalar × Value)} {settings : Settings}
    (given : Value.find? (.str directoryName) fields = some (.scalar (.str text))) :
    ofValue (.map fields) = .ok settings ↔
      Field.optional "shell" default.shell Field.text fields = .ok settings.shell ∧
      settings.workingDir = some (Path.ofText text) ∧
      Field.optional "show_commands" default.showCommands Field.bool fields =
        .ok settings.showCommands ∧
      Field.optional "output_to_stderr" default.outputToStderr Field.bool fields =
        .ok settings.outputToStderr := by
  have directory : Field.optional "working_dir" none (Field.nullable Field.path) fields =
      .ok (some text) := by
    have found : Value.find? (.str "working_dir") fields = some (.scalar (.str text)) := given
    rw [Field.optional, found]
    rfl
  simp only [ofValue, Field.mapping, Checked.bind_eq_ok_iff, Checked.both_eq_ok_iff]
  constructor
  · rintro ⟨_, ⟨⟩, ⟨shell, found, showCommands, outputToStderr⟩, ⟨first, second, third, fourth⟩, ⟨⟩⟩
    obtain rfl : some text = found := Except.ok.inj (directory.symm.trans second)
    exact ⟨first, rfl, third, fourth⟩
  · rintro ⟨first, second, third, fourth⟩
    refine ⟨fields, rfl, (settings.shell, some text, settings.showCommands,
      settings.outputToStderr), ⟨first, directory, third, fourth⟩, ?_⟩
    obtain ⟨shell, workingDir, showCommands, outputToStderr⟩ := settings
    obtain rfl := second
    rfl

theorem ofTable_eq_ok_iff {fields : List (Scalar × Value)} {settings : Settings}
    (found : Value.find? (.str tableName) table = some (.map fields)) :
    ofTable table = .ok settings ↔ ofValue (.map fields) = .ok settings := by
  rw [ofTable, Field.optional, found]
  exact Checked.under_eq_ok_iff

/-- The text that a table gives is the path of the working directory. -/
theorem GivesDirectory.workingDir_eq (h : GivesDirectory table text) {settings : Settings}
    (read : ofTable table = .ok settings) : settings.workingDir = some (Path.ofText text) := by
  obtain ⟨fields, found, given⟩ := h
  exact ((ofValue_map_eq_ok_iff given).mp ((ofTable_eq_ok_iff found).mp read)).2.1

/-- Another text in place of the working directory changes nothing else. -/
theorem GivesDirectory.ofTable_withDirectory (h : GivesDirectory table text) {settings : Settings}
    (read : ofTable table = .ok settings) (other : String) :
    ofTable (Settings.withDirectory other table) =
      .ok { settings with workingDir := some (Path.ofText other) } := by
  obtain ⟨fields, found, given⟩ := h
  obtain ⟨first, -, third, fourth⟩ :=
    (ofValue_map_eq_ok_iff given).mp ((ofTable_eq_ok_iff found).mp read)
  have outer : Value.find? (.str tableName) (Settings.withDirectory other table) =
      some (.map (Value.setEntry (.str directoryName) (.scalar (.str other)) fields)) := by
    simp only [Settings.withDirectory, found]
    exact Value.find?_setEntry_self ..
  rw [ofTable_eq_ok_iff outer, ofValue_map_eq_ok_iff (Value.find?_setEntry_self ..)]
  have apart {name : String} (ne : directoryName ≠ name) := Value.find?_setEntry_of_ne
    directoryName (.scalar (.str other)) fields ne
  refine ⟨?_, rfl, ?_, ?_⟩
  · rwa [Field.optional, apart (by decide)]
  · rwa [Field.optional, apart (by decide)]
  · rwa [Field.optional, apart (by decide)]

end Tables

section Loading

/-- A path leads to a settings file at a place, which holds a table. -/
structure Holds (disk : Disk) (directory : Location) (path : Path) (file : Location)
    (table : Toml.Table) : Prop where
  exists_text : ∃ bytes executable text,
    disk.stat directory path.text = .ok (file, .file bytes executable) ∧
      Text.decodeUtf8 bytes = .ok text ∧ Toml.document? text = .ok table

variable {disk : Disk} {directory file : Location} {path : Path} {table : Toml.Table}

/-- Settings are loaded from the table that a file holds. -/
theorem Holds.load_eq_ok_iff (h : Holds disk directory path file table) {settings : Settings} :
    load disk directory path = .ok settings ↔
      ∃ written, ofTable table = .ok written ∧
        written.settle directory path.parent = .ok settings := by
  obtain ⟨bytes, executable, text, stat, decoded, document⟩ := h.exists_text
  simp only [load, stat, decoded, ofText, document]
  cases ofTable table <;> simp

/-- A relative working directory is the place that its text leads to from the directory of the
file. -/
theorem settle_eq {written settings : Settings} {base : Path} {text : String}
    (gave : written.workingDir = some (.ofText text)) (relative : text.toList.head? ≠ some '/')
    (settled : written.settle directory base = .ok settings) :
    settings = { written with
      workingDir := some (.ofLocation (Path.walk (base.locate directory) text)) } := by
  have unrooted : (Path.ofText text).isAbsolute = false := by
    simpa [← Path.isAbsolute_ofText_iff] using relative
  have joined : (base.join (.ofText text)).locate directory =
      Path.walk (base.locate directory) text := by
    rw [Path.join, if_neg (by simp [unrooted]), Path.locate, List.foldl_append,
      Path.foldl_enter_names_ofText]
    rfl
  simp only [settle, gave, unrooted, joined] at settled
  split at settled
  · contradiction
  · split at settled
    · cases settled
    · exact (Except.ok.inj settled).symm

/-- An absolute working directory is left as it is. -/
theorem settle_of_isAbsolute {written : Settings} {path : Path}
    (gave : written.workingDir = some path) (absolute : path.isAbsolute = true)
    (directory : Location) (base : Path) : written.settle directory base = .ok written := by
  simp [settle, gave, absolute]

end Loading

/-- A settings file at a place was loaded by a spelling of its path from a directory, and gives a
relative text as the working directory. -/
structure Loads (disk : Disk) (directory : Location) (spelling : String) (file : Location)
    (table : Toml.Table) (text : String) (settings : Settings) : Prop where
  tree : disk.IsTree
  holds : Holds disk directory (.ofText spelling) file table
  gives : GivesDirectory table text
  relative : text.toList.head? ≠ some '/'
  loaded : load disk directory (.ofText spelling) = .ok settings

section Loads

variable {disk : Disk} {directory file : Location} {spelling text : String} {table : Toml.Table}
  {settings : Settings}

/-- The directory of the file is the one that its path names. -/
theorem Loads.locate_parent (h : Loads disk directory spelling file table text settings) :
    (Path.ofText spelling).parent.locate directory = file.dropLast := by
  obtain ⟨bytes, executable, -, stat, -⟩ := h.holds.exists_text
  exact Disk.locate_parent_of_stat_file h.tree (Path.isNormal_ofText spelling) stat

/-- The settings are those of the table with the place that the text leads to from the directory of
the file. -/
theorem Loads.exists_written (h : Loads disk directory spelling file table text settings) :
    ∃ written, ofTable table = .ok written ∧
      settings = { written with
        workingDir := some (.ofLocation (Path.walk file.dropLast text)) } := by
  obtain ⟨written, read, settled⟩ := h.holds.load_eq_ok_iff.mp h.loaded
  have settings_eq := settle_eq (h.gives.workingDir_eq read) h.relative settled
  rw [h.locate_parent] at settings_eq
  exact ⟨written, read, settings_eq⟩

theorem Loads.workingDir_eq (h : Loads disk directory spelling file table text settings) :
    settings.workingDir = some (.ofLocation (Path.walk file.dropLast text)) := by
  obtain ⟨written, -, rfl⟩ := h.exists_written
  rfl

/-- The place is reached from the root along the directory at hand, unless the path of the file is
absolute, the directory in this path, and the text. -/
theorem Loads.walk_eq_foldl (h : Loads disk directory spelling file table text settings)
    (proper : Path.IsProper directory) :
    Path.walk file.dropLast text =
      (Path.start directory (.ofText spelling) ++ (Path.ofText spelling).parent.names ++
        Text.splitString '/' text).foldl Path.enter [] := by
  have first : Path.IsProper (Path.start directory (.ofText spelling)) := by
    unfold Path.start
    split
    · exact fun name mem => absurd mem List.not_mem_nil
    · exact proper
  calc
    Path.walk file.dropLast text =
        (Text.splitString '/' text).foldl Path.enter
          ((Path.ofText spelling).parent.locate directory) := by rw [h.locate_parent, Path.walk]
    _ = (Text.splitString '/' text).foldl Path.enter
          ((Path.ofText spelling).parent.names.foldl Path.enter
            ((Path.start directory (.ofText spelling)).foldl Path.enter [])) := by
        rw [first.foldl_enter_eq []]
        rfl
    _ = _ := by rw [List.foldl_append, List.foldl_append]

/-- A relative working directory becomes an absolute path whose names all lead down: the place that
is reached from the root along the directory at hand, the directory of the file, and the text. Where
a directory stands there, the disk follows the text to it. The same file and the same place give the
same working directory however they are spelled, and a file with this path as its working directory
is loaded as the same settings from everywhere. -/
theorem workingDir_of_loads (proper : Path.IsProper directory)
    (h : Loads disk directory spelling file table text settings) :
    ∃ place, settings.workingDir = some (.ofLocation place) ∧ Path.IsProper place ∧
      place = (Path.start directory (.ofText spelling) ++ (Path.ofText spelling).parent.names ++
        Text.splitString '/' text).foldl Path.enter [] ∧
      (∀ found, disk.find file.dropLast text = .ok found → found = place) ∧
      (∀ {disk' directory' spelling' table' text' settings'},
        Loads disk' directory' spelling' file table' text' settings' →
          Path.walk file.dropLast text' = Path.walk file.dropLast text →
            settings'.workingDir = settings.workingDir) ∧
      ∀ {disk' directory' spelling' file'},
        Holds disk' directory' (.ofText spelling') file'
            (withDirectory (Path.ofLocation place).text table) →
          load disk' directory' (.ofText spelling') = .ok settings := by
  have reached := h.walk_eq_foldl proper
  have unslashed : ∀ name ∈ Path.start directory (.ofText spelling) ++
      (Path.ofText spelling).parent.names ++ Text.splitString '/' text, '/' ∉ name.toList := by
    intro name mem
    obtain mem | mem := List.mem_append.mp mem
    · obtain mem | mem := List.mem_append.mp mem
      · unfold Path.start at mem
        split at mem
        · cases mem
        · exact (proper name mem).2.2
      · exact ((Path.isNormal_ofText spelling).names name (List.dropLast_subset _ mem)).2
    · exact Path.unslashed_of_mem_splitString mem
  have root : Path.IsProper [] := fun name mem => absurd mem List.not_mem_nil
  have down : Path.IsProper (Path.walk file.dropLast text) := by
    rw [reached]
    exact root.foldl_enter unslashed
  refine ⟨Path.walk file.dropLast text, h.workingDir_eq, down, reached, ?_, ?_, ?_⟩
  · intro found followed
    have unrooted : (Path.ofText text).isAbsolute = false := by
      simpa [← Path.isAbsolute_ofText_iff] using h.relative
    rw [Disk.eq_walk_of_find followed, Path.start, if_neg (by simp [unrooted])]
  · intro _ _ _ _ _ _ other same
    rw [other.workingDir_eq, h.workingDir_eq, same]
  · intro _ directory' spelling' _ holds
    obtain ⟨written, read, settings_eq⟩ := h.exists_written
    have spelled := down.isNormal_ofLocation.ofText_text
    rw [holds.load_eq_ok_iff]
    refine ⟨_, h.gives.ofTable_withDirectory read _, ?_⟩
    rw [spelled, ← settings_eq]
    exact settle_of_isAbsolute h.workingDir_eq rfl directory' _

/-- A settings file that gives a relative working directory. -/
def siteText : String := "[execution]\nworking_dir = \x22../data/./x/..\x22\n"

/-- The file with the place of the working directory in it. -/
def settledText : String := "[execution]\nworking_dir = \x22/srv/data\x22\n"

/-- A disk with a settings file of the given text. -/
def siteDisk (text : String) : Disk :=
  ⟨[(["srv"], .directory), (["srv", "app"], .directory),
    (["srv", "app", "deploydoc.toml"], .file (Text.encodeUtf8 text.toList) false)]⟩

/-- The table of a file that gives a working directory and nothing else. -/
def siteTable (text : String) : Toml.Table :=
  [(.str "execution", .map [(.str "working_dir", .scalar (.str text))])]

theorem isTree_siteDisk (text : String) : (siteDisk text).IsTree := by
  apply Disk.isTree_of_entries
  intro entry mem
  simp only [siteDisk, List.mem_cons, List.not_mem_nil, or_false] at mem
  obtain rfl | rfl | rfl := mem
  all_goals rfl

theorem holds_siteDisk {text : String} {directory : Location} {path : Path} {table : Toml.Table}
    (stat : (siteDisk text).stat directory path.text = .ok (["srv", "app", "deploydoc.toml"],
      .file (Text.encodeUtf8 text.toList) false))
    (document : Toml.document? text.toList = .ok table) :
    Holds (siteDisk text) directory path ["srv", "app", "deploydoc.toml"] table :=
  ⟨_, _, text.toList, stat, Text.decodeUtf8_encodeUtf8 _, document⟩

/-- The working directory of a site, whose file is found on a way with detours. -/
theorem loads_site : Loads (siteDisk siteText) ["srv", "app"] "../app//./deploydoc.toml"
    ["srv", "app", "deploydoc.toml"] (siteTable "../data/./x/..") "../data/./x/.."
    ⟨"sh", some (.ofLocation ["srv", "data"]), true, false⟩ := by
  have holds : Holds (siteDisk siteText) ["srv", "app"] (.ofText "../app//./deploydoc.toml")
      ["srv", "app", "deploydoc.toml"] (siteTable "../data/./x/..") :=
    holds_siteDisk rfl (by with_unfolding_all rfl)
  constructor
  · exact isTree_siteDisk siteText
  · exact holds
  · exact ⟨_, rfl, rfl⟩
  · decide
  · exact holds.load_eq_ok_iff.mpr ⟨_, rfl, rfl⟩

/-- From the root the file with the place in it is loaded as the same settings. -/
theorem workingDir_of_loads_site :
    Loads (siteDisk siteText) ["srv", "app"] "../app//./deploydoc.toml"
        ["srv", "app", "deploydoc.toml"] (siteTable "../data/./x/..") "../data/./x/.."
        ⟨"sh", some (.ofLocation ["srv", "data"]), true, false⟩ ∧
      load (siteDisk settledText) [] (.ofText "/srv/app/deploydoc.toml") =
        .ok ⟨"sh", some (.ofLocation ["srv", "data"]), true, false⟩ := by
  have proper : Path.IsProper ["srv", "app"] := by
    intro name mem
    simp only [List.mem_cons, List.not_mem_nil, or_false] at mem
    obtain rfl | rfl := mem
    all_goals decide
  obtain ⟨place, same, -, -, -, -, reload⟩ := workingDir_of_loads proper loads_site
  obtain rfl : ["srv", "data"] = place := by
    simpa [Path.ofLocation] using same
  exact ⟨loads_site, reload (holds_siteDisk rfl (by with_unfolding_all rfl))⟩

end Loads

end Settings

end Runbook

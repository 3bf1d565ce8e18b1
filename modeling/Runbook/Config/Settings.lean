import Runbook.Disk.Tree
import Runbook.Schema.Field
import Runbook.Toml.Document

/-!
# Settings of a run

The settings say how the commands of a run are started. They come from a settings file; without
one the defaults hold. A relative working directory is meant from the directory of the file.
-/

namespace Runbook

/-- How commands are started and what is shown of them. -/
structure Settings where
  shell : String
  workingDir : Option Path
  showCommands : Bool
  outputToStderr : Bool
  deriving DecidableEq, Repr

/-- Why a settings file cannot be used. -/
inductive SettingsError where
  | isDirectory
  | badPath
  | badText
  | badSyntax
  | longNumber
  | tooDeep
  | nullCharacter
  | invalid (problems : List Problem)
  deriving DecidableEq, Repr

namespace Settings

open Runbook.Field (optional)

/-- The settings without a file. -/
def default : Settings := ⟨"sh", none, true, false⟩

/-- The name of the settings file. -/
def fileName : String := "deploydoc.toml"

/-- The table of a settings file that holds the settings of a run. -/
def tableName : String := "execution"

/-- Reads the settings of a run as they are written. -/
def ofValue (value : Value) : Checked Settings := do
  let fields ← Field.mapping .modelType value
  let (shell, workingDir, showCommands, outputToStderr) ←
    Checked.both (optional "shell" default.shell Field.text fields)
      (.both (optional "working_dir" none (Field.nullable Field.path) fields)
        (.both (optional "show_commands" default.showCommands Field.bool fields)
          (optional "output_to_stderr" default.outputToStderr Field.bool fields)))
  return ⟨shell, workingDir.map Path.ofText, showCommands, outputToStderr⟩

/-- Reads the settings in the table of a file. -/
def ofTable (table : Toml.Table) : Checked Settings := optional tableName default ofValue table

/-- The settings with a relative working directory made absolute: it is meant from `base`, and
`base` from the directory at hand. -/
def settle (directory : Location) (base : Path) (settings : Settings) :
    Except SettingsError Settings :=
  match settings.workingDir with
  | some path =>
    if path.isAbsolute then .ok settings
    else if (path.names ++ base.names).any fun name => name.toList.contains '\x00' then
      .error .nullCharacter
    else
      .ok { settings with
        workingDir := some (Path.ofLocation ((base.join path).locate directory)) }
  | none => .ok settings

/-- The settings that the text of a file holds. -/
def ofText (directory : Location) (base : Path) (text : List Char) :
    Except SettingsError Settings :=
  match Toml.document? text with
  | .error .malformed => .error .badSyntax
  | .error .longNumber => .error .longNumber
  | .error .tooDeep => .error .tooDeep
  | .ok table =>
    match ofTable table with
    | .error problems => .error (.invalid problems)
    | .ok settings => settings.settle directory base

/-- Loads the settings from a file, if it is there. -/
def load (disk : Disk) (directory : Location) (path : Path) : Except SettingsError Settings :=
  match disk.stat directory path.text with
  | .error error => if error.meansAbsent then .ok default else .error .badPath
  | .ok (_, .directory) => .error .isDirectory
  | .ok (_, .file bytes _) =>
    match Text.decodeUtf8 bytes with
    | .error _ => .error .badText
    | .ok text => ofText directory path.parent text

/-- The settings file that a new project starts with. -/
def template : String :=
  "[execution]\nshell = \x22sh\x22\nworking_dir = \x22.\x22\nshow_commands = true\n"

end Settings

end Runbook

import ImageImports.Files
import ImageImports.Settings
import ImageImports.Text.Utf8
import ImageImports.Toml.Parser

/-!
# Settings files

Settings are read from a file with two tables, one per group.  What a table does not say keeps its
default, and what it says beyond the known settings is ignored.
-/

namespace ImageImports.Settings

/-- Why settings cannot be read. -/
inductive LoadFault where
  | missing (path : String)
  | directory (path : String)
  /-- The file is locked. -/
  | denied (path : String)
  /-- The file is no text. -/
  | noText (fault : Text.Utf8.Fault)
  | malformed (fault : Toml.Fault)
  /-- What should be a table of settings is something else. -/
  | noTable (word : String)
  deriving Inhabited

/-- How the fault is told. -/
def LoadFault.message : LoadFault → String
  | missing path => s!"Configuration file not found: {path}"
  | directory path => s!"[Errno 21] Is a directory: {Text.quoted path}"
  | denied path => s!"[Errno 13] Permission denied: {Text.quoted path}"
  | noText fault => fault.message
  | malformed (.malformed message) | malformed (.numberTooLong message) => message
  | noTable word => s!"'{word}' object has no attribute 'items'"

/-- A group of settings with what a file says under the group's name. -/
def groupOf (defaults : SettingGroup) (name : String) (fields : Toml.Fields) :
    Except LoadFault SettingGroup :=
  match fields.lookup name with
  | none => .ok defaults
  | some (.table given) => .ok (defaults.override given)
  | some other => .error (.noTable other.kindWord)

/-- The settings that a text says. -/
def ofText (text : String) : Except LoadFault Settings :=
  match Toml.parse text with
  | .error fault => .error (.malformed fault)
  | .ok fields => do
    let general ← groupOf defaultGeneral "global" fields
    let imports ← groupOf defaultImports "imports" fields
    return ⟨general, imports⟩

/-- The settings that bytes say. -/
def ofBytes (bytes : ByteArray) : Except LoadFault Settings :=
  match Text.Utf8.decode bytes with
  | .error fault => .error (.noText fault)
  | .ok text => ofText text

/-- The settings in the file that a path name leads to. -/
def load (files : Files) (path : String) : Except LoadFault Settings :=
  let path := PathName.tidy path
  match files.find? path with
  | none => .error (.missing path)
  | some (_, .directory) => .error (.directory path)
  | some (_, .locked _) => .error (.denied path)
  | some (_, .file bytes) => ofBytes bytes

end ImageImports.Settings

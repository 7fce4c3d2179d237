import ImageImports.Toml.Value
import ImageImports.Import.Limits
import ImageImports.Decimal.Shortest

/-!
# Settings

Two groups of settings, each a list of named values with defaults.  Nothing checks the kind of a
value before it is used, so a group holds whatever the settings file said; the functions at the end
say what each use makes of it.
-/

namespace ImageImports

open Toml (Value)

/-- Named values in the order in which they are declared. -/
abbrev SettingGroup := List (String × Value)

namespace SettingGroup

/-- The value of a setting; every group holds all of its settings. -/
def get (group : SettingGroup) (name : String) : Value := (group.lookup name).getD (.bool false)

/-- The group with the values that `given` has for its settings; names it does not have are ignored. -/
def override (group : SettingGroup) (given : List (String × Value)) : SettingGroup :=
  group.map fun (name, value) => (name, ((given.reverse.lookup name)).getD value)

end SettingGroup

/-- All settings. -/
structure Settings where
  general : SettingGroup
  imports : SettingGroup
  deriving Inhabited

namespace Settings

/-- The general settings and their defaults. -/
def defaultGeneral : SettingGroup :=
  [("log_level", .text "INFO"), ("log_file", .text ""), ("log_json", .bool false),
    ("max_workers", .int 4), ("debug", .bool false), ("version", .text "1.0.0")]

/-- The settings of import parsing and their defaults. -/
def defaultImports : SettingGroup :=
  [("max_file_size", .int 209715200), ("max_libraries", .int 1000),
    ("max_entries_per_library", .int 10000), ("max_string_length", .int 4096),
    ("name_offset_fallback", .bool true), ("case_sensitive_search", .bool true)]

/-- The settings when nothing is set. -/
def default : Settings := ⟨defaultGeneral, defaultImports⟩

/-- An integer beyond every count. -/
def beyondCounts : Nat := 1 <<< 1100

/-- The integer that the quotient of rounding a finite number up amounts to; the bounds at infinity are
beyond every count. -/
def ceiling (x : Float) : Int :=
  match Decimal.classify x with
  | .finite b =>
    let floor := b.num / b.den
    if b.negative then -(floor : Int) else if b.num % b.den = 0 then floor else floor + 1
  | .infinite negative => if negative then -beyondCounts else beyondCounts
  | .nan => beyondCounts

/-- What a value amounts to as a limit. -/
def limitOf : Value → Import.Limit
  | .int n => .ofInt n
  | .bool b => ⟨if b then 1 else 0, if b then "True" else "False", .whole⟩
  | .real x => ⟨ceiling x, Decimal.shortest x, .real x⟩
  | value => ⟨0, "", .other value.kindWord⟩

/-- The limits of an analysis. -/
def limits (s : Settings) : Import.Limits where
  maxFileSize := limitOf (s.imports.get "max_file_size")
  maxLibraries := limitOf (s.imports.get "max_libraries")
  maxEntriesPerLibrary := limitOf (s.imports.get "max_entries_per_library")
  maxTextLength := limitOf (s.imports.get "max_string_length")
  nameOffsetFallback := (s.imports.get "name_offset_fallback").isTruthy

/-- Whether searches tell upper from lower case unless asked otherwise. -/
def caseSensitive (s : Settings) : Bool := (s.imports.get "case_sensitive_search").isTruthy

end Settings

end ImageImports

import ImageImports.Json
import ImageImports.Toml.Value

/-!
# Settings values in records

A value of the settings format as a value of the interchange format.  Dates and times, which that
format lacks, become texts with a blank between date and time.
-/

namespace ImageImports.Toml.Value

mutual

/-- The value in the interchange format. -/
def toJson : Value → Json
  | nothing => .null
  | text s => .text s
  | int n => .int n
  | real x => .real x
  | bool b => .bool b
  | moment m => .text (m.text " ")
  | list items => .list (toJsonItems items)
  | table fields => .object (toJsonFields fields)

/-- The items of a list. -/
def toJsonItems : List Value → List Json
  | [] => []
  | item :: rest => toJson item :: toJsonItems rest

/-- The fields of a table. -/
def toJsonFields : List (String × Value) → List (String × Json)
  | [] => []
  | (name, value) :: rest => (name, toJson value) :: toJsonFields rest

end

end ImageImports.Toml.Value

/-!
# Values of the interchange format

The values that scans are stored and reported as.  Numbers keep whether they were written as whole
numbers, whole numbers have no bounds, and the fields of an object keep their order.
-/

namespace ImageImports

/-- A value of the interchange format. -/
inductive Json where
  | null
  | bool (b : Bool)
  | int (n : Int)
  | real (x : Float)
  | text (s : String)
  | list (items : List Json)
  | object (fields : List (String × Json))
  deriving Inhabited

namespace Json

/-- The value of the last field of that name. -/
def lookup? (fields : List (String × Json)) (name : String) : Option Json :=
  (fields.reverse.find? (·.1 = name)).map (·.2)

/-- The field of an object, none when the value is no object or lacks it. -/
def field? : Json → String → Option Json
  | object fields, name => lookup? fields name
  | _, _ => none

/-- A list of texts. -/
def ofTexts (texts : List String) : Json := list (texts.map text)

/-- An integer, or nothing. -/
def ofInt? : Option Int → Json
  | some n => int n
  | none => null

/-- A text, or nothing. -/
def ofText? : Option String → Json
  | some s => text s
  | none => null

end Json

end ImageImports

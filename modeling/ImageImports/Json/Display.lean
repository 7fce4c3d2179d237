import ImageImports.Json
import ImageImports.Decimal.Shortest
import ImageImports.Text.Quoted

/-!
# Values in messages

How a value is shown where people read it: nothing and truth values as capitalised words, texts as
they are on their own and in quotes inside lists and records.
-/

namespace ImageImports.Json

mutual

/-- A value inside another one; `quote` puts texts in quotes. -/
def shownWith (quote : String → String) : Json → String
  | null => "None"
  | bool b => if b then "True" else "False"
  | int n => toString n
  | real x => Decimal.shortest x
  | text s => quote s
  | list items => "[" ++ ", ".intercalate (shownItems quote items) ++ "]"
  | object fields => "\x7b" ++ ", ".intercalate (shownFields quote fields) ++ "\x7d"

/-- The items of a list. -/
def shownItems (quote : String → String) : List Json → List String
  | [] => []
  | item :: rest => shownWith quote item :: shownItems quote rest

/-- The fields of a record. -/
def shownFields (quote : String → String) : List (String × Json) → List String
  | [] => []
  | (name, value) :: rest =>
    (quote name ++ ": " ++ shownWith quote value) :: shownFields quote rest

end

/-- A value as it is shown inside another one. -/
def shownInside (value : Json) : String := shownWith Text.quoted value

/-- A value as it is shown on its own. -/
def shown : Json → String
  | text s => s
  | value => value.shownInside

/-- Whether a value counts as true: everything but nothing, false, zero and what is empty. -/
def isTruthy : Json → Bool
  | null => false
  | bool b => b
  | int n => n ≠ 0
  | real x => !(x == 0)
  | text s => !s.isEmpty
  | list items => !items.isEmpty
  | object fields => !fields.isEmpty

end ImageImports.Json

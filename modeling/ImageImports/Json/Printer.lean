import ImageImports.Json
import ImageImports.Bytes
import ImageImports.Decimal.Shortest

/-!
# Writing the interchange format

Two layouts: on one line, with a blank behind every comma and colon, and indented, with every item
on a line of its own.  Characters outside ASCII are written as they are; a quote, a backslash and
the control characters below the blank are escaped, so a written text never breaks a line.
-/

namespace ImageImports.Json

/-- How one character stands inside quotes. -/
def escapeChar (c : Char) : List Char :=
  if c = '"' then ['\\', '"']
  else if c = '\\' then ['\\', '\\']
  else if c = '\n' then ['\\', 'n']
  else if c = '\r' then ['\\', 'r']
  else if c = '\t' then ['\\', 't']
  else if c = '\x08' then ['\\', 'b']
  else if c = '\x0c' then ['\\', 'f']
  else if c.toNat < 32 then
    ['\\', 'u', '0', '0', Bytes.hexDigit (c.toNat / 16), Bytes.hexDigit (c.toNat % 16)]
  else [c]

/-- A text between quotes. -/
def quoted (s : String) : String :=
  "\"" ++ String.ofList (s.toList.flatMap escapeChar) ++ "\""

/-- A double-precision number; the three values that are no numbers are spelled as words. -/
def realText (x : Float) : String :=
  match Decimal.classify x with
  | .finite b => b.text
  | .infinite negative => if negative then "-Infinity" else "Infinity"
  | .nan => "NaN"

mutual

/-- The value on one line. -/
def compact : Json → String
  | null => "null"
  | bool b => if b then "true" else "false"
  | int n => toString n
  | real x => realText x
  | text s => quoted s
  | list items => "[" ++ ", ".intercalate (compactItems items) ++ "]"
  | object fields => "\x7b" ++ ", ".intercalate (compactFields fields) ++ "\x7d"

/-- The items of a list, each on one line. -/
def compactItems : List Json → List String
  | [] => []
  | item :: rest => compact item :: compactItems rest

/-- The fields of an object, each on one line. -/
def compactFields : List (String × Json) → List String
  | [] => []
  | (name, value) :: rest => (quoted name ++ ": " ++ compact value) :: compactFields rest

end

/-- A line break and the blanks that `depth` levels are indented by. -/
def newline (width depth : Nat) : String := "\n" ++ "".pushn ' ' (width * depth)

mutual

/-- The value with `width` blanks per level, itself at level `depth`. -/
def indented (width depth : Nat) : Json → String
  | null => "null"
  | bool b => if b then "true" else "false"
  | int n => toString n
  | real x => realText x
  | text s => quoted s
  | list [] => "[]"
  | list (item :: rest) =>
    "[" ++ newline width (depth + 1)
      ++ ("," ++ newline width (depth + 1)).intercalate (indentedItems width (depth + 1) (item :: rest))
      ++ newline width depth ++ "]"
  | object [] => "\x7b\x7d"
  | object (field :: rest) =>
    "\x7b" ++ newline width (depth + 1)
      ++ ("," ++ newline width (depth + 1)).intercalate (indentedFields width (depth + 1) (field :: rest))
      ++ newline width depth ++ "\x7d"

/-- The items of a list at level `depth`. -/
def indentedItems (width depth : Nat) : List Json → List String
  | [] => []
  | item :: rest => indented width depth item :: indentedItems width depth rest

/-- The fields of an object at level `depth`. -/
def indentedFields (width depth : Nat) : List (String × Json) → List String
  | [] => []
  | (name, value) :: rest =>
    (quoted name ++ ": " ++ indented width depth value) :: indentedFields width depth rest

end

/-- The layout of reports: two blanks per level. -/
def pretty (value : Json) : String := value.indented 2 0

end ImageImports.Json

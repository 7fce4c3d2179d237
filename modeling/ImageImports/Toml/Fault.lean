import ImageImports.Decimal.Reading
import ImageImports.Text.Quoted

/-!
# Faults of settings files

Why a settings file cannot be read, and where.
-/

namespace ImageImports.Toml

/-- A name of several parts. -/
abbrev Key := List String

/-- Why a settings file cannot be read. -/
inductive Cause where
  /-- The text ends before the mark that closes a part of it. -/
  | markMissing (mark : String)
  | characterInvalid (c : Char)
  | characterIllegal (c : Char)
  | declaredTwice (key : Key)
  | namespaceImmutable (key : Key)
  | namespaceRedefined (key : Key)
  | valueOverwritten
  | tableUnclosed
  | tableItemUnclosed
  | equalsMissing
  | keyMissing
  | listUnclosed
  | inlineTableUnclosed
  | inlineKeyTwice (name : String)
  | backslashLone
  | hexInvalid
  | codeNoCharacter
  | textUnterminated
  | momentInvalid
  | valueInvalid
  | numberTooLong (digits : Nat)
  | statementInvalid
  | lineEndMissing
  deriving DecidableEq, Inhabited

/-- How a cause is told. -/
def Cause.message : Cause → String
  | markMissing mark => s!"Expected {Text.quoted mark}"
  | characterInvalid c => s!"Found invalid character {Text.quoted (String.singleton c)}"
  | characterIllegal c => s!"Illegal character {Text.quoted (String.singleton c)}"
  | declaredTwice key => s!"Cannot declare {Text.quotedTuple key} twice"
  | namespaceImmutable key => s!"Cannot mutate immutable namespace {Text.quotedTuple key}"
  | namespaceRedefined key => s!"Cannot redefine namespace {Text.quotedTuple key}"
  | valueOverwritten => "Cannot overwrite a value"
  | tableUnclosed => "Expected ']' at the end of a table declaration"
  | tableItemUnclosed => "Expected ']]' at the end of an array declaration"
  | equalsMissing => "Expected '=' after a key in a key/value pair"
  | keyMissing => "Invalid initial character for a key part"
  | listUnclosed => "Unclosed array"
  | inlineTableUnclosed => "Unclosed inline table"
  | inlineKeyTwice name => s!"Duplicate inline table key {Text.quoted name}"
  | backslashLone => "Unescaped '\\' in a string"
  | hexInvalid => "Invalid hex value"
  | codeNoCharacter => "Escaped character is not a Unicode scalar value"
  | textUnterminated => "Unterminated string"
  | momentInvalid => "Invalid date or datetime"
  | valueInvalid => "Invalid value"
  | numberTooLong digits => Decimal.tooLongText digits
  | statementInvalid => "Invalid statement"
  | lineEndMissing => "Expected newline or end of document after a statement"

/-- A cause and the text that was left when it was met. -/
structure Stop where
  cause : Cause
  rest : List Char
  deriving Inhabited

/-- The place at which `rest` of a text begins, in words. -/
def placeText (source rest : List Char) : String :=
  if rest.isEmpty then "end of document"
  else
    let before := source.take (source.length - rest.length)
    let line := before.count '\n' + 1
    let column := (before.reverse.takeWhile (· ≠ '\n')).length + 1
    s!"line {line}, column {column}"

/-- Why a text is no settings file. -/
inductive Fault where
  | malformed (message : String)
  /-- A whole number has more digits than are read. -/
  | numberTooLong (message : String)
  deriving DecidableEq, Inhabited

/-- How a stop in the reading of `source` is told.  Of a number that is too long, the place is not
told. -/
def Stop.fault (source : List Char) (s : Stop) : Fault :=
  match s.cause with
  | .numberTooLong digits => .numberTooLong (Cause.numberTooLong digits).message
  | cause => .malformed s!"{cause.message} (at {placeText source s.rest})"

end ImageImports.Toml

import ImageImports.Bytes
import ImageImports.Unicode.Printable

/-!
# Quoted texts

A text in quotes as messages show it: single quotes, or double quotes around a text that holds a
single quote and no double one.  What cannot be shown is written by its code, with two, four or
eight hexadecimal digits, so a quoted text stays on its line.
-/

namespace ImageImports.Text

/-- A number in hexadecimal with zeros in front up to `width` digits. -/
def hexDigits (width n : Nat) : List Char :=
  let digits := Nat.toDigits 16 n
  List.replicate (width - digits.length) '0' ++ digits

/-- How a character stands between quotes. -/
def quotedChar (quote c : Char) : List Char :=
  if c = quote ∨ c = '\\' then ['\\', c]
  else if c = '\n' then ['\\', 'n']
  else if c = '\r' then ['\\', 'r']
  else if c = '\t' then ['\\', 't']
  else if 32 ≤ c.toNat ∧ c.toNat < 127 then [c]
  else if c.toNat < 256 ∧ !Unicode.isPrintable c then '\\' :: 'x' :: hexDigits 2 c.toNat
  else if Unicode.isPrintable c then [c]
  else if c.toNat < 65536 then '\\' :: 'u' :: hexDigits 4 c.toNat
  else '\\' :: 'U' :: hexDigits 8 c.toNat

/-- The quote that a text is put in. -/
def quoteFor (cs : List Char) : Char := if cs.contains '\'' && !cs.contains '"' then '"' else '\''

/-- A text in quotes. -/
def quoted (s : String) : String :=
  let quote := quoteFor s.toList
  String.ofList (quote :: s.toList.flatMap (quotedChar quote) ++ [quote])

/-- Texts in quotes between round brackets; a single one is followed by a comma. -/
def quotedTuple : List String → String
  | [s] => "(" ++ quoted s ++ ",)"
  | items => "(" ++ ", ".intercalate (items.map quoted) ++ ")"

end ImageImports.Text

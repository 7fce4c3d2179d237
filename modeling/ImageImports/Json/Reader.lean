import ImageImports.Json
import ImageImports.Bytes
import ImageImports.Decimal.Reading

/-!
# Reading the interchange format

`parse?` reads one value with blanks around it and nothing behind it.  A number with a point or an
exponent is a double-precision number, and so are the three that are spelled as words; any other is a
whole number of any size.  Recursion is bounded by the length of the text: no value is shorter than
its own nesting.
-/

namespace ImageImports.Json

/-- A value and the text behind it. -/
abbrev Step (α : Type) := List Char → Option (α × List Char)

/-- The text behind the blanks that may stand between tokens. -/
def skipBlanks (s : List Char) : List Char :=
  s.dropWhile fun c => c = ' ' || c = '\n' || c = '\r' || c = '\t'

/-- Four hexadecimal digits. -/
def hex4? : Step Nat
  | a :: b :: c :: d :: rest =>
    match Bytes.hexValue? a, Bytes.hexValue? b, Bytes.hexValue? c, Bytes.hexValue? d with
    | some a, some b, some c, some d => some (((a * 16 + b) * 16 + c) * 16 + d, rest)
    | _, _, _, _ => none
  | _ => none

/-- The character behind a backslash; two escaped surrogates in a row are one character. -/
def escape? : Step Char
  | '"' :: rest => some ('"', rest)
  | '\\' :: rest => some ('\\', rest)
  | '/' :: rest => some ('/', rest)
  | 'b' :: rest => some ('\x08', rest)
  | 'f' :: rest => some ('\x0c', rest)
  | 'n' :: rest => some ('\n', rest)
  | 'r' :: rest => some ('\r', rest)
  | 't' :: rest => some ('\t', rest)
  | 'u' :: rest => do
    let (high, rest) ← hex4? rest
    if 0xD800 ≤ high ∧ high < 0xDC00 then
      match rest with
      | '\\' :: 'u' :: rest =>
        let (low, rest) ← hex4? rest
        if 0xDC00 ≤ low ∧ low < 0xE000 then
          some (Char.ofNat (0x10000 + (high - 0xD800) * 0x400 + (low - 0xDC00)), rest)
        else some ('\uFFFD', rest)
      | _ => some ('\uFFFD', rest)
    else some (if 0xDC00 ≤ high ∧ high < 0xE000 then '\uFFFD' else Char.ofNat high, rest)
  | _ => none

/-- The rest of a text behind its opening quote; `acc` holds what was read, last character first. -/
def textBody? : Nat → List Char → Step String
  | 0, _, _ => none
  | _ + 1, acc, '"' :: rest => some (String.ofList acc.reverse, rest)
  | fuel + 1, acc, '\\' :: rest =>
    match escape? rest with
    | some (c, rest) => textBody? fuel (c :: acc) rest
    | none => none
  | fuel + 1, acc, c :: rest => if c.toNat < 32 then none else textBody? fuel (c :: acc) rest
  | _ + 1, _, [] => none

/-- A run of decimal digits, one at least. -/
def digits? : Step (List Char) := fun s =>
  let digits := s.takeWhile Char.isDigit
  if digits.isEmpty then none else some (digits, s.dropWhile Char.isDigit)

/-- The exponent of a number, when one follows. -/
def exponent? : Step (Option Int) := fun s =>
  match s with
  | 'e' :: rest | 'E' :: rest =>
    let (negative, rest) : Bool × List Char := match rest with
      | '-' :: rest => (true, rest)
      | '+' :: rest => (false, rest)
      | rest => (false, rest)
    (digits? rest).map fun (digits, rest) =>
      (some (if negative then -(Decimal.digitsValue digits : Int) else Decimal.digitsValue digits), rest)
  | s => some (none, s)

/-- The numbers that are spelled as words. -/
def wordNumbers : List (String × Float) :=
  [("NaN", Decimal.nan), ("Infinity", Decimal.withSign false Decimal.infinityBits),
    ("-Infinity", Decimal.withSign true Decimal.infinityBits)]

/-- The word at the front of a text that spells a number. -/
def wordAt? (s : List Char) : Option (String × Float) :=
  wordNumbers.find? fun (word, _) => word.toList.isPrefixOf s

/-- A number behind its sign. -/
def magnitude? (negative : Bool) : Step Json := fun s => do
  let (whole, s) ← digits? s
  if whole.head? = some '0' ∧ whole.length > 1 then none
  let (fraction, s) ← match s with
    | '.' :: rest => (digits? rest).map fun (digits, rest) => (some digits, rest)
    | s => some (none, s)
  let (exponent, s) ← exponent? s
  match fraction, exponent with
  | none, none =>
    let n : Int := Decimal.digitsValue whole
    some (.int (if negative then -n else n), s)
  | _, _ =>
    let fraction := fraction.getD []
    some (.real (Decimal.realOf negative (Decimal.digitsValue (whole ++ fraction))
      (exponent.getD 0 - fraction.length)), s)

/-- A number. -/
def number? : Step Json := fun s =>
  match wordAt? s with
  | some (word, x) => some (.real x, s.drop word.length)
  | none =>
    match s with
    | '-' :: rest => magnitude? true rest
    | s => magnitude? false s

mutual

/-- A value behind blanks; `fuel` bounds the nesting and the number of items. -/
def value? : Nat → Step Json
  | 0, _ => none
  | fuel + 1, s =>
    match skipBlanks s with
    | '"' :: rest => (textBody? (rest.length + 1) [] rest).map fun (t, rest) => (.text t, rest)
    | '[' :: rest =>
      match skipBlanks rest with
      | ']' :: rest => some (.list [], rest)
      | rest => (items? fuel rest).map fun (items, rest) => (.list items, rest)
    | '\x7b' :: rest =>
      match skipBlanks rest with
      | '\x7d' :: rest => some (.object [], rest)
      | rest => (fields? fuel rest).map fun (fields, rest) => (.object fields, rest)
    | 'n' :: 'u' :: 'l' :: 'l' :: rest => some (.null, rest)
    | 't' :: 'r' :: 'u' :: 'e' :: rest => some (.bool true, rest)
    | 'f' :: 'a' :: 'l' :: 's' :: 'e' :: rest => some (.bool false, rest)
    | s => number? s

/-- One item or more, up to the closing bracket. -/
def items? : Nat → Step (List Json)
  | 0, _ => none
  | fuel + 1, s =>
    match value? fuel s with
    | none => none
    | some (item, rest) =>
      match skipBlanks rest with
      | ',' :: rest => (items? fuel rest).map fun (items, rest) => (item :: items, rest)
      | ']' :: rest => some ([item], rest)
      | _ => none

/-- One field or more, up to the closing brace. -/
def fields? : Nat → Step (List (String × Json))
  | 0, _ => none
  | fuel + 1, s =>
    match skipBlanks s with
    | '"' :: rest =>
      match textBody? (rest.length + 1) [] rest with
      | none => none
      | some (name, rest) =>
        match skipBlanks rest with
        | ':' :: rest =>
          match value? fuel rest with
          | none => none
          | some (value, rest) =>
            match skipBlanks rest with
            | ',' :: rest => (fields? fuel rest).map fun (fields, rest) => ((name, value) :: fields, rest)
            | '\x7d' :: rest => some ([(name, value)], rest)
            | _ => none
        | _ => none
    | _ => none

end

/-- The value that a whole text spells. -/
def parse? (s : String) : Option Json :=
  let chars := s.toList
  match value? (2 * chars.length + 2) chars with
  | some (value, rest) => if (skipBlanks rest).isEmpty then some value else none
  | none => none

end ImageImports.Json

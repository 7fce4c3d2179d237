import ImageImports.Bytes
import ImageImports.Decimal.Reading
import ImageImports.Unicode.CharacterName
import ImageImports.Unicode.Name

/-!
# Literal values in tags

A tag whose name begins with an at sign hands a literal value to a handler: numbers, texts, strings
of bytes, truth values, nothing, and tuples, sets and tables of them.  Values stand for themselves;
nothing is computed but the sum of a real and an imaginary number.  Only whether a text is such a
value matters, since a plain screen has no handlers.
-/

namespace ImageImports.Console.Literal

/-- What has to be known of a value to say where it may stand. -/
inductive Kind where
  /-- A number without an imaginary part, written without a sign. -/
  | real
  /-- An imaginary number, written without a sign. -/
  | imaginary
  /-- A signed number without an imaginary part. -/
  | signedReal
  /-- Another value that can be a key. -/
  | keyed
  /-- A value that can be no key: a set or a table, or a tuple that holds one. -/
  | keyless
  deriving DecidableEq, Repr

/-- Whether a value can be a key. -/
def Kind.isKey (k : Kind) : Bool := k ≠ .keyless

/-- What is read of a text, and the rest of it. -/
abbrev Step (α : Type) := List Char → Option (α × List Char)

/-! ## Blanks -/

/-- The text without the blanks and comments at its head; inside brackets line ends are blanks. -/
def skip (inside : Bool) : Nat → List Char → List Char
  | 0, cs => cs
  | fuel + 1, cs =>
    match cs with
    | '\\' :: '\n' :: rest => skip inside fuel rest
    | '#' :: rest => skip inside fuel (rest.dropWhile (· ≠ '\n'))
    | c :: rest =>
      if c = ' ' || c = '\t' || c = '\x0c' || (inside && c = '\n') then skip inside fuel rest
      else cs
    | [] => []

/-- The text without the blanks and comments at its head. -/
def skipAll (inside : Bool) (cs : List Char) : List Char := skip inside (cs.length + 1) cs

/-! ## Numbers -/

/-- Whether a character can stand in a name. -/
def isNamePart (c : Char) : Bool := c.isAlphanum || c = '_' || 128 ≤ c.toNat

/-- Digits in groups that single underscores part; none when an underscore parts nothing. -/
def groups (isDigit : Char → Bool) : Step (List Char) := fun cs =>
  let run := cs.takeWhile fun c => isDigit c || c = '_'
  if (Text.splitList (· = '_') run).any List.isEmpty then none
  else some (run.filter isDigit, cs.drop run.length)

/-- A whole number to a base, behind the letter of the base. -/
def based (isDigit : Char → Bool) : Step Kind := fun cs =>
  (groups isDigit (if cs.head? = some '_' then cs.drop 1 else cs)).map fun (_, rest) =>
    (.real, rest)

/-- The digits behind a point, which may be missing. -/
def fraction : Step Unit := fun cs =>
  if cs.head?.any Char.isDigit then (groups Char.isDigit cs).map fun (_, rest) => ((), rest)
  else some ((), cs)

/-- The exponent at the head, if there is one. -/
def exponent : Step Bool := fun cs =>
  match cs with
  | c :: rest =>
    if c = 'e' || c = 'E' then
      let digits := match rest with
        | '+' :: more | '-' :: more => more
        | _ => rest
      if digits.head?.any Char.isDigit then
        (groups Char.isDigit digits).map fun (_, rest) => (true, rest)
      else none
    else some (false, cs)
  | [] => some (false, [])

/-- What follows the whole part of a decimal number: `spoilt` when that part alone is none. -/
def scaled (spoilt : Bool) (cs : List Char) : Option (Kind × List Char) := do
  let (pointed, cs) ← match cs with
    | '.' :: rest => (fraction rest).map fun (_, rest) => (true, rest)
    | _ => some (false, cs)
  let (raised, cs) ← exponent cs
  match cs with
  | c :: rest =>
    if c = 'j' || c = 'J' then some (.imaginary, rest)
    else if spoilt && !pointed && !raised then none
    else some (.real, cs)
  | [] => if spoilt && !pointed && !raised then none else some (.real, [])

/-- A number at the head, which begins with a digit or with a point before one. -/
def number : Step Kind := fun cs => do
  let (kind, rest) ← match cs with
    | '.' :: _ => scaled false cs
    | '0' :: 'x' :: rest | '0' :: 'X' :: rest => based (fun c => (Bytes.hexValue? c).isSome) rest
    | '0' :: 'o' :: rest | '0' :: 'O' :: rest => based (fun c => '0' ≤ c && c ≤ '7') rest
    | '0' :: 'b' :: rest | '0' :: 'B' :: rest => based (fun c => c = '0' || c = '1') rest
    | _ => do
      let (digits, rest) ← groups Char.isDigit cs
      let isWhole := rest.head?.all fun c => c ≠ '.' && c ≠ 'e' && c ≠ 'E' && c ≠ 'j' && c ≠ 'J'
      if isWhole && Decimal.maxDigits < digits.length then none
      else scaled (digits.head? = some '0' && digits.any (· ≠ '0')) rest
  if rest.head?.any isNamePart then none else some (kind, rest)

/-! ## Texts -/

/-- Whether a backslash before these characters of a text stands for something, or for itself. -/
def isEscape (bytes : Bool) (cs : List Char) : Bool :=
  let hex (n : Nat) (cs : List Char) : Option Nat :=
    if (cs.take n).length = n then Unicode.numberIn? 16 (cs.take n) else none
  match cs with
  | 'x' :: rest => (hex 2 rest).isSome
  | 'u' :: rest => bytes || (hex 4 rest).isSome
  | 'U' :: rest => bytes || (hex 8 rest).any (· ≤ 0x10ffff)
  | 'N' :: rest =>
    bytes || match rest with
      | '\x7b' :: name =>
        name.contains '\x7d' &&
          (Unicode.characterNamed? (String.ofList (name.takeWhile (· ≠ '\x7d')))).isSome
      | _ => false
  | _ => true

/-- What kind a text is of, by the letters before its quotes. -/
structure TextKind where
  raw : Bool
  bytes : Bool

/-- The rest of a text behind its opening quotes, which `fence` closes. -/
def textBody (k : TextKind) (fence : List Char) : Nat → List Char → Option (List Char)
  | 0, _ => none
  | fuel + 1, cs =>
    if fence.isPrefixOf cs then some (cs.drop fence.length)
    else match cs with
      | [] => none
      | '\\' :: c :: rest =>
        if (!k.raw && !isEscape k.bytes (c :: rest)) || (k.bytes && 128 ≤ c.toNat) then none
        else textBody k fence fuel rest
      | c :: rest =>
        if (c = '\n' && fence.length = 1) || (k.bytes && 128 ≤ c.toNat) then none
        else textBody k fence fuel rest

/-- The kind of a text that some letters before its quotes say. -/
def textKind? (letters : List Char) : Option TextKind :=
  match String.ofList (letters.map Char.toLower) with
  | "" | "u" => some ⟨false, false⟩
  | "r" => some ⟨true, false⟩
  | "b" => some ⟨false, true⟩
  | "br" | "rb" => some ⟨true, true⟩
  | _ => none

/-- A text at the head: whether it is a string of bytes, and the rest. -/
def oneText : Step Bool := fun cs => do
  let letters := cs.takeWhile Char.isAlpha
  let kind ← textKind? letters
  let cs := cs.drop letters.length
  let fence ← match cs with
    | '"' :: '"' :: '"' :: _ => some ['"', '"', '"']
    | '\'' :: '\'' :: '\'' :: _ => some ['\'', '\'', '\'']
    | '"' :: _ => some ['"']
    | '\'' :: _ => some ['\'']
    | _ => none
  let rest ← textBody kind fence cs.length (cs.drop fence.length)
  return (kind.bytes, rest)

/-- Texts side by side, which make one: all or none of them are strings of bytes. -/
def moreTexts (inside bytes : Bool) : Nat → List Char → Option (List Char)
  | 0, cs => some cs
  | fuel + 1, cs =>
    match oneText (skipAll inside cs) with
    | some (b, rest) => if b = bytes then moreTexts inside bytes fuel rest else none
    | none => some cs

/-! ## Values -/

/-- The most brackets that may be open at once. -/
def maxDepth : Nat := 200

mutual

/-- A value at the head, inside of `depth` brackets. -/
def value : Nat → (depth : Nat) → Step Kind
  | 0, _, _ => none
  | fuel + 1, depth, cs => do
    let (left, rest) ← signed fuel depth cs
    match skipAll (0 < depth) rest with
    | c :: more =>
      if c = '+' || c = '-' then
        let (right, rest) ← atom fuel depth (skipAll (0 < depth) more)
        if right = .imaginary && (left = .real || left = .signedReal) then some (.keyed, rest)
        else none
      else some (left, rest)
    | [] => some (left, rest)

/-- A value or a number behind a sign. -/
def signed : Nat → (depth : Nat) → Step Kind
  | 0, _, _ => none
  | fuel + 1, depth, cs =>
    match cs with
    | c :: rest =>
      if c = '+' || c = '-' then do
        match ← atom fuel depth (skipAll (0 < depth) rest) with
        | (.real, rest) => some (.signedReal, rest)
        | (.imaginary, rest) => some (.keyed, rest)
        | _ => none
      else atom fuel depth cs
    | [] => none

/-- A value that is no sum and has no sign. -/
def atom : Nat → (depth : Nat) → Step Kind
  | 0, _, _ => none
  | fuel + 1, depth, cs =>
    match cs with
    | '(' :: rest => do
      if maxDepth ≤ depth then none
      match skipAll true rest with
      | ')' :: rest => some (.keyed, rest)
      | cs =>
        let (kind, rest) ← value fuel (depth + 1) cs
        match skipAll true rest with
        | ')' :: rest => some (kind, rest)
        | ',' :: rest =>
          let (isKey, rest) ← items fuel (depth + 1) ')' rest
          some (if kind.isKey && isKey then .keyed else .keyless, rest)
        | _ => none
    | '\x7b' :: rest => do
      if maxDepth ≤ depth then none
      match skipAll true rest with
      | '\x7d' :: rest => some (.keyless, rest)
      | cs =>
        let (kind, rest) ← value fuel (depth + 1) cs
        if !kind.isKey then none
        match skipAll true rest with
        | '\x7d' :: rest => some (.keyless, rest)
        | ',' :: rest =>
          let (isKey, rest) ← items fuel (depth + 1) '\x7d' rest
          if isKey then some (.keyless, rest) else none
        | ':' :: rest =>
          let (_, rest) ← value fuel (depth + 1) (skipAll true rest)
          match skipAll true rest with
          | '\x7d' :: rest => some (.keyless, rest)
          | ',' :: rest => (fields fuel (depth + 1) rest).map fun (_, rest) => (.keyless, rest)
          | _ => none
        | _ => none
    | '.' :: '.' :: '.' :: rest => some (.keyed, rest)
    | c :: rest =>
      if c.isDigit || (c = '.' && rest.head?.any Char.isDigit) then number cs
      else match oneText cs with
        | some (bytes, rest) =>
          (moreTexts (0 < depth) bytes rest.length rest).map fun rest => (.keyed, rest)
        | none =>
          let name := cs.takeWhile isNamePart
          let rest := cs.drop name.length
          match String.ofList name with
          | "None" | "True" | "False" => some (.keyed, rest)
          | "set" => match skipAll (0 < depth) rest with
            | '(' :: rest => match skipAll true rest with
              | ')' :: rest => some (.keyless, rest)
              | _ => none
            | _ => none
          | _ => none
    | [] => none

/-- The further values of a tuple or a set behind a comma, up to the closing bracket, and whether all
of them can be keys. -/
def items : Nat → (depth : Nat) → (closing : Char) → Step Bool
  | 0, _, _, _ => none
  | fuel + 1, depth, closing, cs => do
    match skipAll true cs with
    | c :: rest =>
      if c = closing then some (true, rest)
      else
        let (kind, rest) ← value fuel depth (c :: rest)
        match skipAll true rest with
        | d :: rest =>
          if d = closing then some (kind.isKey, rest)
          else if d = ',' then
            (items fuel depth closing rest).map fun (isKey, rest) => (kind.isKey && isKey, rest)
          else none
        | [] => none
    | [] => none

/-- The further fields of a table behind a comma, up to the closing bracket. -/
def fields : Nat → (depth : Nat) → Step Unit
  | 0, _, _ => none
  | fuel + 1, depth, cs => do
    match skipAll true cs with
    | '\x7d' :: rest => some ((), rest)
    | cs =>
      let (kind, rest) ← value fuel depth cs
      if !kind.isKey then none
      match skipAll true rest with
      | ':' :: rest =>
        let (_, rest) ← value fuel depth (skipAll true rest)
        match skipAll true rest with
        | '\x7d' :: rest => some ((), rest)
        | ',' :: rest => fields fuel depth rest
        | _ => none
      | _ => none

end

/-- The further values behind a value outside of all brackets, up to the end of the text. -/
def closes : Nat → List Char → Bool
  | 0, _ => false
  | fuel + 1, cs =>
    match skipAll false cs with
    | [] => true
    | ',' :: rest =>
      let rest := skipAll false rest
      (skipAll true rest).isEmpty || match value (3 * rest.length + 3) 0 rest with
        | some (_, rest) => closes fuel rest
        | none => false
    | '\n' :: rest => (skipAll true rest).isEmpty
    | _ => false

/-- Line ends of all systems as one. -/
def unifyLines : List Char → List Char
  | '\r' :: '\n' :: rest => '\n' :: unifyLines rest
  | '\r' :: rest => '\n' :: unifyLines rest
  | c :: rest => c :: unifyLines rest
  | [] => []

/-- Whether a text is a literal value, or several that commas part. -/
def isLiteral (cs : List Char) : Bool :=
  let cs := skipAll false (unifyLines cs)
  !cs.contains '\x00' && match value (3 * cs.length + 3) 0 cs with
    | some (_, rest) => closes (cs.length + 1) rest
    | none => false

/-! ## Handlers -/

/-- What a call hands over: what stands between its brackets with them, and the empty tuple for a name
alone; nothing when the text is no call. -/
def argumentsOf? (cs : List Char) : Option (List Char) :=
  let rest := cs.dropWhile fun c => Unicode.isWord c.toNat || c = '_' || c = '.'
  match rest with
  | [] => some ['(', ')']
  | '(' :: inner => if inner.getLast? = some ')' && !inner.contains '\n' then some rest else none
  | _ => none

/-- Whether a handler can take what a tag hands it: a call of literal values, or such values alone. -/
def isHandled (parameters : List Char) : Bool :=
  let cs := Text.trimList (fun c => Unicode.isBlank c.toNat) parameters
  isLiteral ((argumentsOf? cs).getD cs)

end ImageImports.Console.Literal

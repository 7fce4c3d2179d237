import ImageImports.Toml.Document
import ImageImports.Decimal.Reading

/-!
# Reading settings files

A settings file is a list of statements: a key with a value, or the declaration of the table that the
values after it belong to.  Reading stops at the first fault; what was left of the text then says
where it is.  A carriage return before a line feed does not count.

Values nest, and each level takes at least one character, so the length of the text bounds every
recursion.
-/

namespace ImageImports.Toml

/-- A reading of the text that is left. -/
abbrev Reading := StateT (List Char) (Except Stop)

namespace Reading

variable {α : Type}

/-- Stops here. -/
def stop (cause : Cause) : Reading α := fun rest => .error ⟨cause, rest⟩

/-- Stops with another text left. -/
def stopAt (cause : Cause) (rest : List Char) : Reading α := fun _ => .error ⟨cause, rest⟩

/-- Goes on if nothing stands against it. -/
def ofExcept (e : Except Cause α) : Reading α := fun rest =>
  match e with
  | .ok a => .ok (a, rest)
  | .error cause => .error ⟨cause, rest⟩

/-- Leaves out some characters. -/
def drop (count : Nat) : Reading Unit := modify (·.drop count)

/-- Leaves out the characters that satisfy `p`. -/
def skip (p : Char → Bool) : Reading Unit := modify (·.dropWhile p)

/-- Whether the text goes on with these characters. -/
def startsWith (mark : String) : Reading Bool := return mark.toList.isPrefixOf (← get)

end Reading

open Reading

/-! ## Characters -/

/-- Blanks within a line. -/
def isBlank (c : Char) : Bool := c = ' ' || c = '\t'

/-- Blanks and line feeds. -/
def isSpace (c : Char) : Bool := isBlank c || c = '\n'

/-- Control characters but the tab. -/
def isControl (c : Char) : Bool := (c.toNat < 32 || c.toNat = 127) && c ≠ '\t'

/-- Control characters but the tab and the line feed. -/
def isLineControl (c : Char) : Bool := isControl c && c ≠ '\n'

/-- Characters of a key without quotes. -/
def isKeyChar (c : Char) : Bool := c.isAlphanum || c = '-' || c = '_'

/-- What stands before the first occurrence of a mark, and the rest from the mark on. -/
def before? (mark : List Char) : List Char → Option (List Char × List Char)
  | [] => none
  | c :: rest =>
    if mark.isPrefixOf (c :: rest) then some ([], c :: rest)
    else (before? mark rest).map fun (read, rest) => (c :: read, rest)

/-- The text up to a mark, which must not hold forbidden characters.  When there is no mark, the text
goes to the end, or the reading stops there. -/
def upTo (mark : String) (forbidden : Char → Bool) (needed : Bool) : Reading String := do
  let rest ← get
  let (read, after) ← match before? mark.toList rest with
    | some found => pure found
    | none => if needed then stopAt (.markMissing mark) [] else pure (rest, [])
  match read.find? forbidden with
  | some c => stopAt (.characterInvalid c) (rest.dropWhile (!forbidden ·))
  | none => do
    set after
    return String.ofList read

/-- Leaves out a comment. -/
def skipComment : Reading Unit := do
  match ← get with
  | '#' :: rest => do
    set rest
    let _ ← upTo "\n" isControl false
  | _ => pure ()

/-- Leaves out blanks, line feeds and comments. -/
def skipSpaces : Nat → Reading Unit
  | 0 => pure ()
  | fuel + 1 => do
    let start ← get
    skip isSpace
    skipComment
    if (← get).length < start.length then skipSpaces fuel

/-! ## Texts -/

/-- The character that a number of hexadecimal digits stands for. -/
def hexChar (count : Nat) : Reading (List Char) := do
  let digits := (← get).take count
  if digits.length < count ∨ digits.any (fun c => (Bytes.hexValue? c).isNone) then stop .hexInvalid
  else do
    drop count
    let code := digits.foldl (fun n c => n * 16 + (Bytes.hexValue? c).getD 0) 0
    if code.isValidChar then return [Char.ofNat code] else stop .codeNoCharacter

/-- What a backslash and the characters behind it stand for. -/
def escaped (multiline : Bool) : Reading (List Char) := do
  drop 1
  let c? := (← get).head?
  drop 1
  match c? with
  | some 'b' => return ['\x08']
  | some 't' => return ['\t']
  | some 'n' => return ['\n']
  | some 'f' => return ['\x0c']
  | some 'r' => return ['\r']
  | some '"' => return ['"']
  | some '\\' => return ['\\']
  | some 'u' => hexChar 4
  | some 'U' => hexChar 8
  | some c =>
    if multiline && isSpace c then do
      if c ≠ '\n' then do
        skip isBlank
        match ← get with
        | [] => pure ()
        | '\n' :: rest => set rest
        | _ => stop .backslashLone
      skip isSpace
      return []
    else stop .backslashLone
  | none => stop .backslashLone

/-- The rest of a text between double quotes; `found` holds what was read, last character first. -/
def basicText (multiline : Bool) : Nat → List Char → Reading String
  | 0, _ => stop .textUnterminated
  | fuel + 1, found => do
    match ← get with
    | [] => stop .textUnterminated
    | '"' :: rest =>
      if !multiline then do
        set rest
        return String.ofList found.reverse
      else if ← startsWith "\"\"\"" then do
        drop 3
        return String.ofList found.reverse
      else do
        set rest
        basicText multiline fuel ('"' :: found)
    | '\\' :: _ => do
      let read ← escaped multiline
      basicText multiline fuel (read.reverse ++ found)
    | c :: rest =>
      if (if multiline then isLineControl c else isControl c) then stop (.characterIllegal c)
      else do
        set rest
        basicText multiline fuel (c :: found)

/-- A text between double quotes, from its opening quote on. -/
def quotedText : Reading String := do
  drop 1
  basicText false ((← get).length + 1) []

/-- A text between single quotes, from its opening quote on. -/
def literalText : Reading String := do
  drop 1
  let read ← upTo "'" isControl true
  drop 1
  return read

/-- Up to two more quotes that belong to a text of several lines. -/
def extraQuotes (quote : Char) : Nat → Reading String
  | 0 => return ""
  | count + 1 => do
    match ← get with
    | c :: rest =>
      if c = quote then do
        set rest
        return String.singleton quote ++ (← extraQuotes quote count)
      else return ""
    | [] => return ""

/-- A text of several lines, from its opening quotes on; a line feed behind them does not count. -/
def linesText (quote : Char) : Reading String := do
  drop 3
  if (← get).head? = some '\n' then drop 1
  let read ← if quote = '"' then do basicText true ((← get).length + 1) []
    else do
      let read ← upTo "'''" isLineControl true
      drop 3
      pure read
  return read ++ (← extraQuotes quote 2)

/-! ## Keys -/

/-- One part of a key. -/
def keyPart : Reading String := do
  match ← get with
  | '\'' :: _ => literalText
  | '"' :: _ => quotedText
  | c :: rest =>
    if isKeyChar c then do
      skip isKeyChar
      return String.ofList (c :: rest.takeWhile isKeyChar)
    else stop .keyMissing
  | [] => stop .keyMissing

/-- The further parts of a key. -/
def keyRest : Nat → Reading Key
  | 0 => return []
  | fuel + 1 => do
    skip isBlank
    match ← get with
    | '.' :: rest => do
      set rest
      skip isBlank
      let part ← keyPart
      return part :: (← keyRest fuel)
    | _ => return []

/-- A key and the blanks behind it. -/
def key : Reading Key := do
  let part ← keyPart
  return part :: (← keyRest ((← get).length + 1))

/-! ## Dates, times and numbers -/

/-- The number that exactly `count` digits at the head write. -/
def digitsAt? (count : Nat) (cs : List Char) : Option (Nat × List Char) :=
  let digits := cs.take count
  if digits.length = count ∧ digits.all Char.isDigit then
    some (Decimal.digitsValue digits, cs.drop count)
  else none

/-- A time of day at the head; digits of a second behind the sixth do not count. -/
def clockAt? (cs : List Char) : Option (Clock × List Char) := do
  let (hour, cs) ← digitsAt? 2 cs
  let ':' :: cs := cs | none
  let (minute, cs) ← digitsAt? 2 cs
  let ':' :: cs := cs | none
  let (second, cs) ← digitsAt? 2 cs
  if 23 < hour ∨ 59 < minute ∨ 59 < second then none
  match cs with
  | '.' :: more =>
    let digits := more.takeWhile Char.isDigit
    if digits.isEmpty then some (⟨hour, minute, second, 0⟩, cs)
    else
      let micros := (digits ++ List.replicate 6 '0').take 6
      some (⟨hour, minute, second, Decimal.digitsValue micros⟩, more.dropWhile Char.isDigit)
  | _ => some (⟨hour, minute, second, 0⟩, cs)

/-- The distance from universal time at the head, in minutes, if there is one. -/
def offsetAt (cs : List Char) : Option Int × List Char :=
  let signed (sign : Int) (more : List Char) : Option Int × List Char :=
    match digitsAt? 2 more with
    | some (hour, ':' :: more) => match digitsAt? 2 more with
      | some (minute, more) =>
        if 23 < hour ∨ 59 < minute then (none, cs) else (some (sign * (hour * 60 + minute)), more)
      | none => (none, cs)
    | _ => (none, cs)
  match cs with
  | 'Z' :: more | 'z' :: more => (some 0, more)
  | '+' :: more => signed 1 more
  | '-' :: more => signed (-1) more
  | _ => (none, cs)

/-- A date at the head, which may not be one of the calendar. -/
def dateAt? (cs : List Char) : Option (Calendar.Date × List Char) := do
  let (year, cs) ← digitsAt? 4 cs
  let '-' :: cs := cs | none
  let (month, cs) ← digitsAt? 2 cs
  let '-' :: cs := cs | none
  let (day, cs) ← digitsAt? 2 cs
  if month < 1 ∨ 12 < month ∨ day < 1 ∨ 31 < day then none
  some (⟨year, month, day⟩, cs)

/-- A date, a time or both at the head. -/
def momentAt? (cs : List Char) : Option (Moment × List Char) :=
  match dateAt? cs with
  | some (date, rest) => match rest with
    | c :: more =>
      match (if c = 'T' ∨ c = 't' ∨ c = ' ' then clockAt? more else none) with
      | some (clock, more) =>
        let (offset?, more) := offsetAt more
        some (.dateTime date clock offset?, more)
      | none => some (.date date, rest)
    | [] => some (.date date, [])
  | none => (clockAt? cs).map fun (clock, rest) => (.time clock, rest)

/-- Whether the date of a moment is one of the calendar. -/
def Moment.isValid : Moment → Bool
  | .date d | .dateTime d _ _ => d.isValid
  | .time _ => true

/-- Digits with single underscores between them, as many as there are. -/
def groupedDigits (isDigit : Char → Bool) : List Char → List Char × List Char
  | '_' :: c :: rest =>
    if isDigit c then
      let (digits, after) := groupedDigits isDigit rest
      (c :: digits, after)
    else ([], '_' :: c :: rest)
  | c :: rest =>
    if isDigit c then
      let (digits, after) := groupedDigits isDigit rest
      (c :: digits, after)
    else ([], c :: rest)
  | [] => ([], [])

/-- Digits that begin with a digit. -/
def digitGroup? (isDigit : Char → Bool) (cs : List Char) : Option (List Char × List Char) :=
  match cs with
  | c :: _ => if isDigit c then some (groupedDigits isDigit cs) else none
  | [] => none

/-- A whole number to a base that is a power of two. -/
def basedAt? (base : Nat) (cs : List Char) : Option (Value × List Char) :=
  let isDigit (c : Char) := (Bytes.hexValue? c).any (· < base)
  (digitGroup? isDigit cs).map fun (digits, rest) =>
    (.int (digits.foldl (fun n c => n * base + (Bytes.hexValue? c).getD 0) 0 : Nat), rest)

/-- The fraction and the exponent of a number: the digits behind the point and the power of ten, if
there is one of them at least. -/
def scaleAt (cs : List Char) : Option (List Char × Int) × List Char :=
  let (fraction?, cs) := match cs with
    | '.' :: more => match digitGroup? Char.isDigit more with
      | some (digits, rest) => (some digits, rest)
      | none => (none, cs)
    | _ => (none, cs)
  let exponent? : Option (Int × List Char) := match cs with
    | c :: more =>
      if c = 'e' ∨ c = 'E' then
        let (sign, more) : Int × List Char := match more with
          | '-' :: more => (-1, more)
          | '+' :: more => (1, more)
          | _ => (1, more)
        (digitGroup? Char.isDigit more).map fun (digits, rest) =>
          (sign * Decimal.digitsValue digits, rest)
      else none
    | [] => none
  match fraction?, exponent? with
  | none, none => (none, cs)
  | _, some (exponent, rest) => (some (fraction?.getD [], exponent), rest)
  | some digits, none => (some (digits, 0), cs)

/-- A whole number or one with a fraction, at the head. -/
def decimalAt? (cs : List Char) : Option (Except Cause Value × List Char) :=
  let (negative, cs) := match cs with
    | '-' :: more => (true, more)
    | '+' :: more => (false, more)
    | _ => (false, cs)
  let whole? := match cs with
    | '0' :: rest => some (['0'], rest)
    | _ => digitGroup? Char.isDigit cs
  whole?.map fun (whole, rest) =>
    match scaleAt rest with
    | (some (fraction, exponent), rest) =>
      (.ok (.real (Decimal.realOf negative (Decimal.digitsValue (whole ++ fraction))
        (exponent - fraction.length))), rest)
    | (none, rest) =>
      if Decimal.maxDigits < whole.length then (.error (.numberTooLong whole.length), rest)
      else
        let n : Int := Decimal.digitsValue whole
        (.ok (.int (if negative then -n else n)), rest)

/-- A number at the head. -/
def numberAt? (cs : List Char) : Option (Except Cause Value × List Char) :=
  let based? := match cs with
    | '0' :: 'x' :: more => basedAt? 16 more
    | '0' :: 'b' :: more => basedAt? 2 more
    | '0' :: 'o' :: more => basedAt? 8 more
    | _ => none
  (based?.map fun (value, rest) => (.ok value, rest)) <|> decimalAt? cs

/-- The words for numbers that are not finite. -/
def realWords : List (String × Float) :=
  let infinity : Float := 1 / 0
  [("inf", infinity), ("nan", 0 / 0), ("-inf", -infinity), ("+inf", infinity), ("-nan", 0 / 0),
    ("+nan", 0 / 0)]

/-- A value that is neither a text nor composite. -/
def plainValue : Reading Value := do
  let rest ← get
  match [("true", true), ("false", false)].find? fun (word, _) => word.toList.isPrefixOf rest with
  | some (word, b) => do
    drop word.length
    return .bool b
  | none =>
    match momentAt? rest with
    | some (moment, after) =>
      if moment.isValid then do
        set after
        return .moment moment
      else stop .momentInvalid
    | none =>
      match numberAt? rest with
      | some (.ok value, after) => do
        set after
        return value
      | some (.error cause, _) => stop cause
      | none =>
        match realWords.find? fun (word, _) => word.toList.isPrefixOf rest with
        | some (word, x) => do
          drop word.length
          return .real x
        | none => stop .valueInvalid

/-! ## Values and statements -/

mutual

/-- A value. -/
def value : Nat → Reading Value
  | 0 => stop .valueInvalid
  | fuel + 1 => do
    match ← get with
    | '"' :: _ =>
      if ← startsWith "\"\"\"" then return .text (← linesText '"') else return .text (← quotedText)
    | '\'' :: _ =>
      if ← startsWith "'''" then return .text (← linesText '\'') else return .text (← literalText)
    | '[' :: rest => do
      set rest
      skipSpaces (rest.length + 1)
      return .list (← listItems fuel)
    | '\x7b' :: rest => do
      set rest
      skip isBlank
      match ← get with
      | '\x7d' :: rest => do
        set rest
        return .table []
      | _ => return .table (← inlineFields fuel [] [])
    | _ => plainValue

/-- The items of a list up to its closing bracket. -/
def listItems : Nat → Reading (List Value)
  | 0 => stop .listUnclosed
  | fuel + 1 => do
    match ← get with
    | ']' :: rest => do
      set rest
      return []
    | _ => do
      let item ← value fuel
      skipSpaces ((← get).length + 1)
      match ← get with
      | ']' :: rest => do
        set rest
        return [item]
      | ',' :: rest => do
        set rest
        skipSpaces (rest.length + 1)
        return item :: (← listItems fuel)
      | _ => stop .listUnclosed

/-- The fields of an inline table up to its closing brace, after those that were read. -/
def inlineFields : Nat → Fields → List Key → Reading Fields
  | 0, _, _ => stop .inlineTableUnclosed
  | fuel + 1, fields, frozen => do
    let (name, item) ← keyAndValue fuel
    if isFrozen frozen name then stop (.namespaceImmutable name)
    let last := name.getLast?.getD ""
    let fields ← ofExcept (fields.change false (fun inner =>
      if (inner.lookup last).isSome then .error (.inlineKeyTwice last)
      else .ok (inner ++ [(last, item)])) name.dropLast)
    skip isBlank
    match ← get with
    | '\x7d' :: rest => do
      set rest
      return fields
    | ',' :: rest => do
      set rest
      skip isBlank
      inlineFields fuel fields (if item.isComposite then frozen ++ [name] else frozen)
    | _ => stop .inlineTableUnclosed

/-- A key, an equals sign and a value. -/
def keyAndValue : Nat → Reading (Key × Value)
  | 0 => stop .valueInvalid
  | fuel + 1 => do
    let name ← key
    match ← get with
    | '=' :: rest => do
      set rest
      skip isBlank
      let item ← value fuel
      return (name, item)
    | _ => stop .equalsMissing

end

/-- The declaration of a table, or of one more table in a list of tables. -/
def declaration (d : Document) : Reading Document := do
  let d := d.settle
  if ← startsWith "[[" then do
    drop 2
    skip isBlank
    let name ← key
    let d ← ofExcept (d.declareTableItem name)
    if ← startsWith "]]" then do
      drop 2
      return d
    else stop .tableItemUnclosed
  else do
    drop 1
    skip isBlank
    let name ← key
    let d ← ofExcept (d.declareTable name)
    if ← startsWith "]" then do
      drop 1
      return d
    else stop .tableUnclosed

/-- The statement on a line, if there is one. -/
def statement (d : Document) : Reading Document := do
  match ← get with
  | '\n' :: _ | '#' :: _ | [] => return d
  | '[' :: _ => declaration d
  | c :: rest =>
    if isKeyChar c || c = '"' || c = '\'' then do
      let (name, item) ← keyAndValue (2 * rest.length + 4)
      ofExcept (d.setValue name item)
    else stop .statementInvalid

/-- The statements up to the end. -/
def statements : Nat → Document → Reading Document
  | 0, d => return d
  | fuel + 1, d => do
    skip isBlank
    let d ← statement d
    skip isBlank
    skipComment
    match ← get with
    | [] => return d
    | '\n' :: rest => do
      set rest
      statements fuel d
    | _ => stop .lineEndMissing

/-- The text without the carriage returns that stand before line feeds. -/
def unifyLineEnds : List Char → List Char
  | '\r' :: '\n' :: rest => '\n' :: unifyLineEnds rest
  | c :: rest => c :: unifyLineEnds rest
  | [] => []

/-- The table that a settings file holds, or its first fault. -/
def parse (text : String) : Except Fault Fields :=
  let source := unifyLineEnds text.toList
  match (statements (source.length + 1) {}).run source with
  | .ok (d, _) => .ok d.fields
  | .error stop => .error (stop.fault source)

end ImageImports.Toml

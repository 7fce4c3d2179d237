import ImageImports.Json.Display
import ImageImports.Decimal.Fixed
import ImageImports.Decimal.Reading
import ImageImports.Decimal.Scientific

/-!
# Message templates

A message is a template with fields, each a percent sign, options and a letter, and the values for
them, by position or by name.  A template whose fields do not fit the values yields no message.
-/

namespace ImageImports.Log

/-- The values for a template. -/
inductive Values where
  | byPosition (values : List Json)
  /-- Values by name; a field without a name takes the whole record, once. -/
  | byName (fields : List (String × Json))
  deriving Inhabited

/-- The options of a field. -/
structure FieldOptions where
  leftAligned : Bool := false
  plus : Bool := false
  blank : Bool := false
  alternate : Bool := false
  zero : Bool := false
  width : Nat := 0
  precision? : Option Nat := none
  deriving Inhabited

/-- The values that are left while a template is filled. -/
structure Supply where
  left : List Json
  named? : Option (List (String × Json)) := none
  deriving Inhabited

namespace Supply

/-- The supply of some values. -/
def ofValues : Values → Supply
  | .byPosition values => ⟨values, none⟩
  | .byName fields => ⟨[.object fields], some fields⟩

/-- The next value by position. -/
def next? (s : Supply) : Option (Json × Supply) :=
  match s.left with
  | value :: left => some (value, { s with left })
  | [] => none

/-- Whether nothing is left that should have been used. -/
def isSpent (s : Supply) : Bool := s.named?.isSome || s.left.isEmpty

end Supply

/-! ## Numbers -/

/-- A number with its sign, the mark of its base and its digits. -/
structure Numeral where
  negative : Bool
  mark : String := ""
  digits : String
  deriving Inhabited

/-- Blanks on the side that the options say, up to the width. -/
def alignText (o : FieldOptions) (s : String) : String :=
  let fill := "".pushn ' ' (o.width - s.length)
  if o.leftAligned then s ++ fill else fill ++ s

/-- A numeral laid out; zeros go between the sign and the digits. -/
def layOutNumeral (o : FieldOptions) (n : Numeral) : String :=
  let sign := if n.negative then "-" else if o.plus then "+" else if o.blank then " " else ""
  let body := sign ++ n.mark
  if o.zero ∧ !o.leftAligned then
    body ++ "".pushn '0' (o.width - body.length - n.digits.length) ++ n.digits
  else alignText o (body ++ n.digits)

/-- The whole number that a value is or is cut to. -/
def wholeOf? (cut : Bool) : Json → Option Int
  | .int n => some n
  | .bool b => some (if b then 1 else 0)
  | .real x =>
    match Decimal.classify x with
    | .finite b =>
      let n : Int := (b.num / b.den : Nat)
      if cut then some (if b.negative then -n else n) else none
    | _ => none
  | _ => none

/-- The double-precision number that a value is. -/
def realOf? : Json → Option Float
  | .real x => some x
  | .int n =>
    let x := Decimal.realOf (n < 0) n.natAbs 0
    if x.isFinite then some x else none
  | .bool b => some (if b then 1 else 0)
  | _ => none

/-- A whole number to a base. -/
def wholeNumeral (o : FieldOptions) (base : Nat) (mark : String) (n : Int) : Numeral :=
  let digits := String.ofList (Nat.toDigits base n.natAbs)
  { negative := n < 0
    mark := if o.alternate then mark else ""
    digits := "".pushn '0' (o.precision?.getD 0 - digits.length) ++ digits }

/-- A number with a fraction, in the notation that the letter says. -/
def realNumeral (o : FieldOptions) (letter : Char) (x : Float) : Numeral :=
  match Decimal.classify x with
  | .nan => { negative := false, digits := "nan" }
  | .infinite negative => { negative, digits := "inf" }
  | .finite b =>
    let magnitude := { b with negative := false }
    let precision := o.precision?.getD 6
    let digits := match letter with
      | 'e' => magnitude.scientific precision o.alternate
      | 'f' => magnitude.fixed precision ++ if o.alternate ∧ precision = 0 then "." else ""
      | _ => magnitude.general precision o.alternate
    { negative := b.negative, digits }

/-- A numeral in capital letters. -/
def Numeral.upper (n : Numeral) : Numeral :=
  { n with mark := n.mark.map Char.toUpper, digits := n.digits.map Char.toUpper }

/-! ## Fields -/

/-- A text with its characters outside ASCII written by their codes. -/
def asciiOnly (s : String) : String :=
  String.ofList (s.toList.flatMap fun c =>
    if c.toNat < 128 then [c]
    else if c.toNat < 256 then '\\' :: 'x' :: Text.hexDigits 2 c.toNat
    else if c.toNat < 65536 then '\\' :: 'u' :: Text.hexDigits 4 c.toNat
    else '\\' :: 'U' :: Text.hexDigits 8 c.toNat)

/-- A text cut to the precision and aligned. -/
def textField (o : FieldOptions) (s : String) : String :=
  alignText o (match o.precision? with
    | some n => String.ofList (s.toList.take n)
    | none => s)

/-- A value in the notation that a letter says. -/
def fieldText? (o : FieldOptions) (letter : Char) (value : Json) : Option String :=
  match letter with
  | 's' => some (textField o value.shown)
  | 'r' => some (textField o value.shownInside)
  | 'a' => some (textField o (asciiOnly value.shownInside))
  | 'd' | 'i' | 'u' => (wholeOf? true value).map (layOutNumeral o <| wholeNumeral o 10 "" ·)
  | 'x' => (wholeOf? false value).map (layOutNumeral o <| wholeNumeral o 16 "0x" ·)
  | 'X' => (wholeOf? false value).map (layOutNumeral o <| Numeral.upper <| wholeNumeral o 16 "0x" ·)
  | 'o' => (wholeOf? false value).map (layOutNumeral o <| wholeNumeral o 8 "0o" ·)
  | 'e' | 'f' | 'g' => (realOf? value).map (layOutNumeral o <| realNumeral o letter ·)
  | 'E' | 'F' | 'G' =>
    (realOf? value).map (layOutNumeral o <| Numeral.upper <| realNumeral o letter.toLower ·)
  | 'c' => match value with
    | .text s => if s.length = 1 then some (alignText o s) else none
    | _ => match wholeOf? false value with
      | some n =>
        if 0 ≤ n ∧ n.toNat.isValidChar then
          some (alignText o (String.singleton (Char.ofNat n.toNat)))
        else none
      | none => none
  | _ => none

/-- The largest width of a field for which there is memory. -/
def maxWidth : Nat := 0x7FFFFFFF

/-- The largest precision that a field can ask for. -/
def maxPrecision : Nat := 0x7FFFFFFF

/-- The largest precision of a number for which there is memory. -/
def maxDigits : Nat := 0x10000000

/-- Whether a field can be laid out as its options say. -/
def FieldOptions.isPossible (o : FieldOptions) (letter : Char) : Bool :=
  let isText := letter = 's' || letter = 'r' || letter = 'a' || letter = 'c'
  o.width ≤ maxWidth && o.precision?.all (· ≤ if isText then maxPrecision else maxDigits)

/-- Takes the options at the head. -/
def takeFlags (o : FieldOptions) : List Char → FieldOptions × List Char
  | '-' :: rest => takeFlags { o with leftAligned := true } rest
  | '+' :: rest => takeFlags { o with plus := true } rest
  | ' ' :: rest => takeFlags { o with blank := true } rest
  | '#' :: rest => takeFlags { o with alternate := true } rest
  | '0' :: rest => takeFlags { o with zero := true } rest
  | rest => (o, rest)

/-- A number at the head: written out, or a star for the next value, or not there. -/
def takeCount? (supply : Supply) : List Char → Option (Option Int × Supply × List Char)
  | '*' :: rest =>
    match supply.next? with
    | some (.int n, supply) => some (some n, supply, rest)
    | some (.bool b, supply) => some (some (if b then 1 else 0), supply, rest)
    | _ => none
  | cs =>
    let digits := cs.takeWhile Char.isDigit
    if digits.isEmpty then some (none, supply, cs)
    else some (some (digits.foldl (fun n c => n * 10 + (c.toNat - 48)) 0 : Nat), supply,
      cs.dropWhile Char.isDigit)

/-- The name between round brackets, which may hold pairs of them, and what follows it. -/
def takeName? (depth : Nat) : List Char → Option (List Char × List Char)
  | [] => none
  | ')' :: rest =>
    match depth with
    | 0 => some ([], rest)
    | depth + 1 => (takeName? depth rest).map fun (name, after) => (')' :: name, after)
  | '(' :: rest => (takeName? (depth + 1) rest).map fun (name, after) => ('(' :: name, after)
  | c :: rest => (takeName? depth rest).map fun (name, after) => (c :: name, after)

/-- The value that a field asks for by name, which takes the place of the values by position. -/
def takeNamed? (supply : Supply) (cs : List Char) : Option (Supply × List Char) :=
  match cs with
  | '(' :: rest =>
    match supply.named?, takeName? 0 rest with
    | some fields, some (name, after) =>
      (Json.lookup? fields (String.ofList name)).map fun value =>
        ({ supply with left := [value] }, after)
    | _, _ => none
  | _ => some (supply, cs)

/-- The field behind a percent sign, filled, and what follows it. -/
def takeField? (supply : Supply) (cs : List Char) : Option (String × Supply × List Char) := do
  let (supply, cs) ← takeNamed? supply cs
  let (o, cs) := takeFlags {} cs
  let (width?, supply, cs) ← takeCount? supply cs
  let width := width?.getD 0
  let o := { o with leftAligned := o.leftAligned || width < 0, width := width.natAbs }
  let (precision?, supply, cs) ← match cs with
    | '.' :: rest => (takeCount? supply rest).bind fun (n?, supply, rest) =>
        let n := n?.getD 0
        if n < -(maxPrecision : Int) - 1 then none else some (some n.toNat, supply, rest)
    | _ => some (none, supply, cs)
  let o := { o with precision? }
  let cs := match cs with
    | c :: rest => if c = 'h' ∨ c = 'l' ∨ c = 'L' then rest else cs
    | [] => []
  match cs with
  | [] => none
  | letter :: rest =>
    let (value, supply) ← supply.next?
    if !o.isPossible letter then none
    else (fieldText? o letter value).map fun text => (text, supply, rest)

/-- The template with its fields filled, two percent signs being one; `fuel` bounds the number of its
parts. -/
def fill? : Nat → Supply → List Char → Option (List Char × Supply)
  | 0, _, _ => none
  | _ + 1, supply, [] => some ([], supply)
  | fuel + 1, supply, '%' :: '%' :: rest =>
    (fill? fuel supply rest).map fun (cs, supply) => ('%' :: cs, supply)
  | fuel + 1, supply, '%' :: rest =>
    match takeField? supply rest with
    | none => none
    | some (text, supply, rest) =>
      (fill? fuel supply rest).map fun (cs, supply) => (text.toList ++ cs, supply)
  | fuel + 1, supply, c :: rest =>
    (fill? fuel supply rest).map fun (cs, supply) => (c :: cs, supply)

/-- The message that a template makes of values, none when they do not fit. -/
def render? (template : String) (values : Values) : Option String :=
  match fill? (template.length + 1) (.ofValues values) template.toList with
  | some (cs, supply) => if supply.isSpent then some (String.ofList cs) else none
  | none => none

end ImageImports.Log

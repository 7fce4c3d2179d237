import ImageImports.Json
import ImageImports.Text
import ImageImports.Decimal.Binary
import ImageImports.Decimal.Reading

/-!
# Checked reading of values

Stored scans come from files that anyone may have edited, so every value is read against what its
place demands.  A reading either succeeds or lists everything that is wrong, each fault with the
names and indices that lead to it, in the order in which the places are declared.  The demands are
lenient where nothing is lost: a whole number may come as a text or as a truth value.

## Main results

* `Checked.seq_ok_iff` — a combination succeeds exactly when both of its parts do.
-/

namespace ImageImports.Schema

/-! ## Faults -/

/-- What can be wrong with one value. -/
inductive FaultKind where
  | missing
  | textExpected
  | textTooShort
  | textTooLong
  | integerExpected
  | integerUnreadable
  | integerTooLong
  | integerWithFraction
  | numberInfinite
  | truthExpected
  | truthUnreadable
  | wordUnknown
  | recordExpected
  | listExpected
  | sequenceExpected
  | mappingExpected
  | timeExpected
  | timeUnreadable
  | timeOutOfRange
  | attributeUnknown
  deriving DecidableEq, Inhabited

/-- The word a kind of fault is reported as. -/
def FaultKind.word : FaultKind → String
  | missing => "missing"
  | textExpected => "string_type"
  | textTooShort => "string_too_short"
  | textTooLong => "string_too_long"
  | integerExpected => "int_type"
  | integerUnreadable => "int_parsing"
  | integerTooLong => "int_parsing_size"
  | integerWithFraction => "int_from_float"
  | numberInfinite => "finite_number"
  | truthExpected => "bool_type"
  | truthUnreadable => "bool_parsing"
  | wordUnknown => "enum"
  | recordExpected => "model_type"
  | listExpected => "list_type"
  | sequenceExpected => "tuple_type"
  | mappingExpected => "dict_type"
  | timeExpected => "datetime_type"
  | timeUnreadable => "datetime_from_date_parsing"
  | timeOutOfRange => "datetime_parsing"
  | attributeUnknown => "no_such_attribute"

/-- A fault and the way to it from outside. -/
structure Fault where
  kind : FaultKind
  path : List String := []
  deriving DecidableEq, Inhabited

/-- The fault seen from the place that `step` leads out of. -/
def Fault.within (step : String) (f : Fault) : Fault := { f with path := step :: f.path }

/-! ## Readings -/

/-- A value, or everything that is wrong with it. -/
inductive Checked (α : Type) where
  | ok (value : α)
  | faults (fs : List Fault)
  deriving Inhabited

namespace Checked

variable {α β : Type}

/-- A reading that found one fault. -/
def fault (kind : FaultKind) : Checked α := faults [{ kind }]

/-- The reading with `f` applied to the value. -/
def map (f : α → β) : Checked α → Checked β
  | ok a => ok (f a)
  | faults fs => faults fs

/-- Both readings, the faults of the first before those of the second. -/
def seq : Checked (α → β) → Checked α → Checked β
  | ok f, ok a => ok (f a)
  | ok _, faults fs => faults fs
  | faults fs, ok _ => faults fs
  | faults fs, faults gs => faults (fs ++ gs)

/-- The reading of a value that was read before. -/
def bind : Checked α → (α → Checked β) → Checked β
  | ok a, f => f a
  | faults fs, _ => faults fs

/-- The reading with its faults seen from outside. -/
def within (step : String) : Checked α → Checked α
  | ok a => ok a
  | faults fs => faults (fs.map (·.within step))

instance : Applicative Checked where
  pure := ok
  map := map
  seq f a := f.seq (a ())

theorem seq_ok_iff {f : Checked (α → β)} {a : Checked α} {b : β} :
    f.seq a = ok b ↔ ∃ g x, f = ok g ∧ a = ok x ∧ g x = b := by
  cases f <;> cases a <;> simp [seq]

/-- The readings of all items of a list, with their indices as steps from `index` on. -/
def traverse (read : Json → Checked α) (index : Nat) : List Json → Checked (List α)
  | [] => ok []
  | item :: rest =>
    ((read item).within (toString index) |>.map List.cons).seq (traverse read (index + 1) rest)

/-- The readings of items that are taken one after the other, up to the first that has a fault, which
is told as that item's own. -/
def each (read : Json → Checked α) : List Json → Checked (List α)
  | [] => ok []
  | item :: rest => (read item).bind fun a => (each read rest).map (a :: ·)

end Checked

/-! ## Texts and words -/

/-- A text. -/
def text : Json → Checked String
  | .text s => .ok s
  | _ => .fault .textExpected

/-- A text with a bounded number of characters. -/
def withLength (least : Nat) (most? : Option Nat) (s : String) : Checked String :=
  if s.length < least then .fault .textTooShort
  else if most?.any (· < s.length) then .fault .textTooLong
  else .ok s

/-- A word of a fixed list. -/
def word {α : Type} (ofWord? : String → Option α) : Json → Checked α
  | .text s => match ofWord? s with
    | some a => .ok a
    | none => .fault .wordUnknown
  | _ => .fault .wordUnknown

/-! ## Numbers and truth values -/

/-- The number that decimal digits write, none when there are other characters or none at all. -/
def digits? (cs : List Char) : Option Nat :=
  if cs.isEmpty ∨ cs.any (fun c => !c.isDigit) then none
  else some (cs.foldl (fun n c => 10 * n + (c.toNat - '0'.toNat)) 0)

/-- The integer that is all of a text in plain notation, without blanks, a plus sign, underscores or
zeros in front. -/
def plainInteger? (cs : List Char) : Option Int :=
  let digits := if cs.head? = some '-' then cs.drop 1 else cs
  if digits.head? = some '0' ∧ digits ≠ ['0'] then none
  else (digits? digits).map fun n => if cs.head? = some '-' then -n else n

/-- Is the number in plain notation at the head longer than a number may be? -/
def isTooLong (cs : List Char) : Bool :=
  let digits := (if cs.head? = some '-' then cs.drop 1 else cs).takeWhile Char.isDigit
  digits.head? ≠ some '0' && Decimal.maxDigits < digits.length

/-- What is left of the text of a number without the zeros, and underscores among them, in front of
it.  One zero stays in front of a point, and the last character always stays; nothing when the text
does not begin as a number does. -/
def withoutZeros? : List Char → Option (List Char)
  | '0' :: rest => go '0' rest
  | c :: rest => if c = '-' ∨ c.isDigit then some (c :: rest) else none
  | [] => none
where
  /-- The rest of the text behind the zero or underscore `last`. -/
  go (last : Char) : List Char → Option (List Char)
    | [] => some [last]
    | c :: rest =>
      if c = '0' ∨ c = '_' then go c rest
      else if c = '-' ∨ c.isDigit then some (c :: rest)
      else if c = '.' then some (last :: c :: rest)
      else none

/-- The text of a number without a fraction of zeros. -/
def withoutFraction (cs : List Char) : List Char :=
  let fraction := (cs.dropWhile (· ≠ '.')).drop 1
  if !fraction.isEmpty && fraction.all (· = '0') then cs.takeWhile (· ≠ '.') else cs

/-- The text of a number without its underscores, of which no two may stand together and none at
either end. -/
def withoutUnderscores (cs : List Char) : List Char :=
  if (Text.splitList (· = '_') cs).any List.isEmpty then cs else cs.filter (· ≠ '_')

/-- The integer that a text writes in loose notation: blanks around it, a plus sign, zeros in front,
underscores between digits and a fraction of zeros are allowed. -/
def looseInteger? (cs : List Char) : Option Int :=
  let cs := Text.trimList Text.isWhiteSpace cs
  let unsigned := if cs.head? = some '+' then cs.drop 1 else cs
  if cs.head? = some '+' ∧ unsigned.head? = some '-' then none
  else (withoutZeros? unsigned).bind fun cs =>
    let cs := withoutUnderscores (withoutFraction cs)
    if isTooLong cs then none else plainInteger? cs

/-- The integer that a text writes. -/
def integerOfText (s : String) : Checked Int :=
  let cs := s.toList
  if isTooLong cs then .fault .integerTooLong
  else match plainInteger? cs with
    | some n => .ok n
    | none => match looseInteger? cs with
      | some n => .ok n
      | none => .fault .integerUnreadable

/-- The integer that a number with a fraction part is, if that part is zero. -/
def integerOfReal (x : Float) : Checked Int :=
  match Decimal.classify x with
  | .finite b =>
    if b.num % b.den ≠ 0 then .fault .integerWithFraction
    else
      let n : Int := if b.negative then -(b.num / b.den : Nat) else (b.num / b.den : Nat)
      if -0x8000000000000000 < n ∧ n < 0x8000000000000000 then .ok n else .fault .integerTooLong
  | _ => .fault .numberInfinite

/-- An integer. -/
def integer : Json → Checked Int
  | .int n => .ok n
  | .bool b => .ok (if b then 1 else 0)
  | .real x => integerOfReal x
  | .text s => integerOfText s
  | _ => .fault .integerExpected

/-- The words for a truth value, to be compared without regard to case. -/
def truthWords : List (String × Bool) :=
  [("0", false), ("off", false), ("f", false), ("false", false), ("n", false), ("no", false),
    ("1", true), ("on", true), ("t", true), ("true", true), ("y", true), ("yes", true)]

/-- Zero and one as truth values. -/
def truthOfInteger (n : Int) : Checked Bool :=
  if n = 0 then .ok false else if n = 1 then .ok true else .fault .truthUnreadable

/-- A truth value. -/
def truth : Json → Checked Bool
  | .bool b => .ok b
  | .int n =>
    if -0x8000000000000000 ≤ n ∧ n < 0x8000000000000000 then truthOfInteger n
    else .fault .truthExpected
  | .real x => match integerOfReal x with
    | .ok n => truthOfInteger n
    | .faults _ => .fault .truthExpected
  | .text s => match truthWords.lookup s.toLower with
    | some b => .ok b
    | none => .fault .truthUnreadable
  | _ => .fault .truthExpected

/-! ## Lists and records -/

/-- A list whose items are read one by one. -/
def list {α : Type} (read : Json → Checked α) : Json → Checked (List α)
  | .list items => Checked.traverse read 0 items
  | _ => .fault .listExpected

/-- A list of a value that is not to change. -/
def sequence {α : Type} (read : Json → Checked α) : Json → Checked (List α)
  | .list items => Checked.traverse read 0 items
  | _ => .fault .sequenceExpected

/-- Nothing, or a value. -/
def optional {α : Type} (read : Json → Checked α) : Json → Checked (Option α)
  | .null => .ok none
  | value => (read value).map some

/-- The fields of a record. -/
def record : Json → Checked (List (String × Json))
  | .object fields => .ok fields
  | _ => .fault .recordExpected

/-- Any fields. -/
def mapping : Json → Checked (List (String × Json))
  | .object fields => .ok fields
  | _ => .fault .mappingExpected

/-- A field that must be there. -/
def required {α : Type} (fields : List (String × Json)) (name : String) (read : Json → Checked α) :
    Checked α :=
  match Json.lookup? fields name with
  | some value => (read value).within name
  | none => (Checked.fault .missing).within name

/-- A field that has a value when it is not there. -/
def field {α : Type} (fields : List (String × Json)) (name : String) (default : α)
    (read : Json → Checked α) : Checked α :=
  match Json.lookup? fields name with
  | some value => (read value).within name
  | none => .ok default

end ImageImports.Schema

import ImageImports.Calendar

/-!
# Values of the settings format

What a settings file can say: texts, numbers, truth values, dates and times, lists and tables.  A
table keeps the order in which its keys first occur.
-/

namespace ImageImports.Toml

/-- A time of day. -/
structure Clock where
  hour : Nat
  minute : Nat
  second : Nat
  microsecond : Nat := 0
  deriving DecidableEq, Inhabited

/-- Hours, minutes and seconds, and microseconds when there are any. -/
def Clock.text (c : Clock) : String :=
  s!"{Calendar.padded 2 c.hour}:{Calendar.padded 2 c.minute}:{Calendar.padded 2 c.second}"
    ++ if c.microsecond = 0 then "" else s!".{Calendar.padded 6 c.microsecond}"

/-- A date, a time of day, or both, with an offset from universal time in minutes. -/
inductive Moment where
  | date (d : Calendar.Date)
  | time (c : Clock)
  | dateTime (d : Calendar.Date) (c : Clock) (offset? : Option Int)
  deriving DecidableEq, Inhabited

/-- An offset from universal time as sign, hours and minutes. -/
def offsetText (offset : Int) : String :=
  let minutes := offset.natAbs
  (if offset < 0 then "-" else "+")
    ++ s!"{Calendar.padded 2 (minutes / 60)}:{Calendar.padded 2 (minutes % 60)}"

/-- The moment in the international notation, with `separator` between date and time. -/
def Moment.text (separator : String) : Moment → String
  | date d => d.text
  | time c => c.text
  | dateTime d c offset? =>
    d.text ++ separator ++ c.text ++ ((offset?.map offsetText).getD "")

/-- A value of the settings format. -/
inductive Value where
  /-- No value, which a file cannot say. -/
  | nothing
  | text (s : String)
  | int (n : Int)
  | real (x : Float)
  | bool (b : Bool)
  | moment (m : Moment)
  | list (items : List Value)
  | table (fields : List (String × Value))
  deriving Inhabited

namespace Value

/-- How the kind of a value is called in messages. -/
def kindWord : Value → String
  | nothing => "NoneType"
  | text _ => "str"
  | int _ => "int"
  | real _ => "float"
  | bool _ => "bool"
  | moment (.date _) => "datetime.date"
  | moment (.time _) => "datetime.time"
  | moment (.dateTime ..) => "datetime.datetime"
  | list _ => "list"
  | table _ => "dict"

/-- Whether a value counts as true: everything but nothing, false, zero and what is empty. -/
def isTruthy : Value → Bool
  | nothing => false
  | text s => !s.isEmpty
  | int n => n ≠ 0
  | real x => !(x == 0)
  | bool b => b
  | moment _ => true
  | list items => !items.isEmpty
  | table fields => !fields.isEmpty

/-- Whether a value holds others. -/
def isComposite : Value → Bool
  | list _ | table _ => true
  | _ => false

end Value

end ImageImports.Toml

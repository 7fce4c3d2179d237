import ImageImports.Calendar
import ImageImports.Decimal.Reading
import ImageImports.Schema

/-!
# Instants

An instant is told by a clock, to the microsecond.  The clock's distance from universal time may be
unknown, and two instants can be compared only if both distances are known or neither is.

Instants are read from the international notation, from a date alone, and from a count of seconds
since 1970, or of milliseconds when the count is too large for seconds.

Around a piece of work a clock shows two instants.

## Main results

* `Span.since?_ended` — the time between beginning and end is what passed on the clock.
-/

namespace ImageImports.Calendar

/-- A point in time as a clock tells it. -/
structure Instant where
  /-- Microseconds since 1970 began, on that clock. -/
  clock : Int
  /-- The seconds by which the clock is ahead of universal time, if that is known. -/
  offset? : Option Int := none
  deriving DecidableEq, Inhabited

namespace Instant

/-- Microseconds of a second. -/
def perSecond : Int := 1000000

/-- The microseconds from one instant to another, none when the clocks cannot be compared. -/
def since? (later earlier : Instant) : Option Int :=
  match later.offset?, earlier.offset? with
  | none, none => some (later.clock - earlier.clock)
  | some a, some b => some ((later.clock - a * perSecond) - (earlier.clock - b * perSecond))
  | _, _ => none

/-- The instant in universal time, in the international notation; parts of a second are told when
there are any. -/
def text (i : Instant) : String :=
  let micros := i.clock - i.offset?.getD 0 * perSecond
  let fraction := (micros % perSecond).toNat
  match Second.ofEpoch? (micros / perSecond) with
  | some second =>
    second.date.text ++ "T" ++ clockText second.clock
      ++ (if fraction = 0 then "" else "." ++ padded 6 fraction) ++ "+00:00"
  | none => ""

/-! ## Reading -/

/-- The number that exactly `count` digits at the head write, and what follows them. -/
def digitsAt? (count : Nat) (cs : List Char) : Option (Nat × List Char) :=
  if cs.length < count then none
  else (Schema.digits? (cs.take count)).map fun n => (n, cs.drop count)

/-- The date at the head. -/
def dateAt? (cs : List Char) : Option (Date × List Char) :=
  match digitsAt? 4 cs with
  | some (year, '-' :: cs) => match digitsAt? 2 cs with
    | some (month, '-' :: cs) => match digitsAt? 2 cs with
      | some (day, cs) =>
        let date : Date := ⟨year, month, day⟩
        if date.isValid then some (date, cs) else none
      | none => none
    | _ => none
  | _ => none

/-- The microseconds that the digits behind the point of a second write; digits behind the sixth do
not count. -/
def fractionAt? (cs : List Char) : Option (Nat × List Char) :=
  let digits := cs.takeWhile Char.isDigit
  if digits.isEmpty then none
  else
    (Schema.digits? ((digits ++ List.replicate 6 '0').take 6)).map fun n =>
      (n, cs.dropWhile Char.isDigit)

/-- Seconds and their fraction, both of which may be left out. -/
def secondsAt? (cs : List Char) : Option (Nat × List Char) :=
  match cs with
  | ':' :: cs => match digitsAt? 2 cs with
    | none => none
    | some (second, cs) =>
      if 59 < second then none
      else match cs with
        | '.' :: more | ',' :: more =>
          (fractionAt? more).map fun (micros, cs) => (second * 1000000 + micros, cs)
        | _ => some (second * 1000000, cs)
  | _ => some (0, cs)

/-- The microseconds since midnight at the head. -/
def timeAt? (cs : List Char) : Option (Nat × List Char) :=
  match digitsAt? 2 cs with
  | some (hour, ':' :: cs) => match digitsAt? 2 cs with
    | some (minute, cs) =>
      if 23 < hour ∨ 59 < minute then none
      else (secondsAt? cs).map fun (micros, cs) => ((hour * 60 + minute) * 60000000 + micros, cs)
    | none => none
  | _ => none

/-- The distance from universal time that is all of the text: nothing, `Z`, or a sign with hours and
minutes. -/
def offsetOf? (cs : List Char) : Option (Option Int) :=
  let signed (sign : Int) (cs : List Char) : Option (Option Int) :=
    match digitsAt? 2 cs with
    | none => none
    | some (hour, cs) =>
      match digitsAt? 2 (if cs.head? = some ':' then cs.drop 1 else cs) with
      | some (minute, []) =>
        if 59 < minute ∨ 23 < hour then none else some (some (sign * (hour * 3600 + minute * 60)))
      | _ => none
  match cs with
  | [] => some none
  | ['Z'] | ['z'] => some (some 0)
  | '+' :: cs => signed 1 cs
  | '-' :: cs | '−' :: cs => signed (-1) cs
  | _ => none

/-- The instant in the international notation: a date, alone or with a time behind a `T`, a blank or
an underscore. -/
def ofNotation? (cs : List Char) : Option Instant :=
  match dateAt? cs with
  | none => none
  | some (date, rest) =>
    let midnight := date.toDays * 86400 * perSecond
    match rest with
    | [] => some { clock := midnight }
    | separator :: cs =>
      if separator ≠ 'T' ∧ separator ≠ 't' ∧ separator ≠ ' ' ∧ separator ≠ '_' then none
      else match timeAt? cs with
        | none => none
        | some (micros, cs) => (offsetOf? cs).map fun offset? => ⟨midnight + micros, offset?⟩

/-- The largest count that is one of seconds. -/
def maxSeconds : Int := 20000000000

/-- The instant whose clock has run for so many microseconds since 1970 began, in universal time; the
years 1 to 9999 are known. -/
def ofClock? (clock : Int) : Option Instant :=
  if -62135596800 * perSecond ≤ clock ∧ clock < 253402300800 * perSecond then some ⟨clock, some 0⟩
  else none

/-- The instant that lies `count` seconds, or milliseconds when there are too many, after 1970
began. -/
def ofCount? (count : Int) : Option Instant :=
  ofClock? (if maxSeconds < count ∨ count < -maxSeconds then count * 1000 else count * perSecond)

/-- The integer that a number is which has no fraction. -/
def integerOf? (x : Float) : Option Int :=
  match Decimal.classify x with
  | .finite b => some (if b.negative then -(b.num / b.den : Nat) else (b.num / b.den : Nat))
  | _ => none

/-- The instant that a count with a fraction stands for.  The fraction is taken from the seconds, in
double precision, and rounded to the nearest microsecond. -/
def ofReal? (x : Float) : Option Instant :=
  let seconds := if Float.ofInt maxSeconds < x.abs then x / 1000.0 else x
  match integerOf? seconds.floor, integerOf? ((seconds - seconds.floor) * 1000000.0).round with
  | some whole, some micros => ofClock? (whole * perSecond + micros)
  | _, _ => none

/-- The power of ten that a text writes behind a number: none, or one behind an `e`. -/
def exponentOf? (cs : List Char) : Option Int :=
  match cs with
  | [] => some 0
  | c :: cs =>
    if c ≠ 'e' ∧ c ≠ 'E' then none
    else
      let digits := if cs.head? = some '-' ∨ cs.head? = some '+' then cs.drop 1 else cs
      (Schema.digits? digits).map fun n => if cs.head? = some '-' then -n else n

/-- The instant that a text stands for which is a count.  Digits may be missing on one side of a
point, and only behind a point may a power of ten follow. -/
def ofCountText? (cs : List Char) : Option Instant :=
  let negative := cs.head? = some '-'
  let cs := if negative ∨ cs.head? = some '+' then cs.drop 1 else cs
  let whole := cs.takeWhile Char.isDigit
  match cs.dropWhile Char.isDigit with
  | [] => (Schema.digits? whole).bind fun n => ofCount? (if negative then -n else n)
  | '.' :: cs =>
    let fraction := cs.takeWhile Char.isDigit
    match Schema.digits? (whole ++ fraction), exponentOf? (cs.dropWhile Char.isDigit) with
    | some n, some exponent => ofReal? (Decimal.realOf negative n (exponent - fraction.length))
    | _, _ => none
  | _ => none

/-- The instant that a text stands for. -/
def ofText? (s : String) : Option Instant :=
  (ofNotation? s.toList).or (ofCountText? s.toList)

/-- The instant that a value stands for. -/
def read : Json → Schema.Checked Instant
  | .text s => orElse .timeUnreadable (ofText? s)
  | .int n => orElse .timeOutOfRange (ofCount? n)
  | .real x => orElse .timeOutOfRange (ofReal? x)
  | _ => .fault .timeExpected
where
  /-- Refuses what stands for no instant. -/
  orElse (kind : Schema.FaultKind) : Option Instant → Schema.Checked Instant
    | some i => .ok i
    | none => .fault kind

end Instant

/-! ## Spans -/

/-- What a clock shows around a piece of work. -/
structure Span where
  began : Instant
  /-- Microseconds by which the clock moved; it may have been set back. -/
  elapsed : Int
  deriving DecidableEq, Inhabited

namespace Span

/-- What the clock shows at the end. -/
def ended (s : Span) : Instant := { s.began with clock := s.began.clock + s.elapsed }

theorem since?_ended (s : Span) : s.ended.since? s.began = some s.elapsed := by
  cases h : s.began.offset? with
  | none =>
    simp only [Instant.since?, ended, h, Option.some.injEq]
    omega
  | some offset =>
    simp only [Instant.since?, ended, h, Option.some.injEq]
    omega

end Span

end ImageImports.Calendar

/-!
# Dates and times of day

The proleptic Gregorian calendar from year 1 to year 9999, days counted from 1970-01-01.  A year is
taken to begin in March, so that the leap day is its last day and every month but the last has its
fixed length.
-/

namespace ImageImports.Calendar

/-- A day of the calendar. -/
structure Date where
  year : Int
  month : Nat
  day : Nat
  deriving DecidableEq, Inhabited

/-- Whether a year has a leap day. -/
def isLeap (year : Int) : Bool := year % 4 = 0 && (year % 100 ≠ 0 || year % 400 = 0)

/-- The number of days of a month. -/
def monthLength (year : Int) (month : Nat) : Nat :=
  if month = 2 then if isLeap year then 29 else 28
  else if month = 4 ∨ month = 6 ∨ month = 9 ∨ month = 11 then 30 else 31

/-- Whether there is such a day between the years 1 and 9999. -/
def Date.isValid (d : Date) : Bool :=
  1 ≤ d.year && d.year ≤ 9999 && 1 ≤ d.month && d.month ≤ 12 && 1 ≤ d.day
    && d.day ≤ monthLength d.year d.month

/-- The days from 1970-01-01 to a day. -/
def Date.toDays (d : Date) : Int :=
  let year := if d.month ≤ 2 then d.year - 1 else d.year
  let era := year / 400
  let yearOfEra := year % 400
  let monthFromMarch : Int := (d.month + 9) % 12
  let dayOfYear := (153 * monthFromMarch + 2) / 5 + d.day - 1
  era * 146097 + (yearOfEra * 365 + yearOfEra / 4 - yearOfEra / 100 + dayOfYear) - 719468

/-- The day that lies `days` after 1970-01-01. -/
def Date.ofDays (days : Int) : Date :=
  let shifted := days + 719468
  let era := shifted / 146097
  let dayOfEra := shifted % 146097
  let yearOfEra := (dayOfEra - dayOfEra / 1460 + dayOfEra / 36524 - dayOfEra / 146096) / 365
  let dayOfYear := dayOfEra - (365 * yearOfEra + yearOfEra / 4 - yearOfEra / 100)
  let monthFromMarch := (5 * dayOfYear + 2) / 153
  let month := if monthFromMarch < 10 then monthFromMarch + 3 else monthFromMarch - 9
  { year := yearOfEra + era * 400 + (if month ≤ 2 then 1 else 0)
    month := month.toNat
    day := (dayOfYear - (153 * monthFromMarch + 2) / 5 + 1).toNat }

/-- A number with zeros in front up to `width` digits. -/
def padded (width n : Nat) : String :=
  let digits := toString n
  "".pushn '0' (width - digits.length) ++ digits

/-- Year, month and day with dashes. -/
def Date.text (d : Date) : String := s!"{padded 4 d.year.toNat}-{padded 2 d.month}-{padded 2 d.day}"

/-- Seconds since midnight as hours, minutes and seconds with colons. -/
def clockText (seconds : Nat) : String :=
  s!"{padded 2 (seconds / 3600)}:{padded 2 (seconds / 60 % 60)}:{padded 2 (seconds % 60)}"

/-- A second of the calendar, counted from 1970-01-01 in universal time. -/
structure Second where
  date : Date
  /-- Seconds since midnight. -/
  clock : Nat
  deriving DecidableEq, Inhabited

/-- The second that lies `seconds` after the beginning of 1970, if the calendar has it. -/
def Second.ofEpoch? (seconds : Int) : Option Second :=
  if -62135596800 ≤ seconds ∧ seconds ≤ 253402300799 then
    some ⟨Date.ofDays (seconds / 86400), (seconds % 86400).toNat⟩
  else none

/-- Date and time with a blank between them, the year with as many digits as it needs. -/
def Second.text (s : Second) : String :=
  s!"{s.date.year}-{padded 2 s.date.month}-{padded 2 s.date.day} {clockText s.clock}"

/-- Date and time with a `T` between them and the offset of universal time behind. -/
def Second.isoText (s : Second) : String := s.date.text ++ "T" ++ clockText s.clock ++ "+00:00"

end ImageImports.Calendar

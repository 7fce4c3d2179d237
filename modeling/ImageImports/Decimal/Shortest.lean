import ImageImports.Decimal.Binary

/-!
# The shortest decimal that reads back

Of all decimals that read back as a given double-precision number, the one with the fewest digits
is written, and of two of that length the nearer one.  Positions from `10^-4` up to below `10^16`
are written out; everything else in scientific notation.  A whole number keeps its `.0`.
-/

namespace ImageImports.Decimal

/-- The decimal `digits · 10 ^ exponent`. -/
structure Scaled where
  digits : Nat
  exponent : Int
  deriving DecidableEq, Inhabited

/-- The decimal digits of a number, most significant first. -/
def digitChars (n : Nat) : List Char := Nat.toDigits 10 n

/-- The least `k` from `k₀` up with `num / den < 10 ^ k`, looking at `fuel` of them. -/
def decimalPoint (num den : Nat) : Nat → Int → Int
  | 0, k => k
  | fuel + 1, k =>
    if num * tenTo (-k).toNat < den * tenTo k.toNat then k else decimalPoint num den fuel (k + 1)

/-- The place of the point of a positive number: `num / den < 10 ^ k`, and `k` is least. -/
def pointOf (b : Binary) : Int :=
  -- A first guess from the binary exponent, never too high, at most a few places too low.
  let binaryLength : Int := (Nat.log2 b.mantissa : Int) + b.exponent
  decimalPoint b.num b.den 8 (Int.fdiv (binaryLength * 1233) 4096 - 1)

/-- Whether the decimal `c · 10 ^ e` lies among the reals that round to `b`. -/
def readsBack (b : Binary) (c : Nat) (e : Int) : Bool :=
  -- Everything times `4 · den · 10 ^ -e`.
  let scaled := 4 * c * tenTo e.toNat * b.den
  let value := 4 * b.num * tenTo (-e).toNat
  let quarter := tenTo (-e).toNat <<< b.exponent.toNat
  let low := value - b.lowerQuarters * quarter
  let high := value + 2 * quarter
  if b.mantissa % 2 = 0 then low ≤ scaled && scaled ≤ high else low < scaled && scaled < high

/-- The decimal nearest to `b` on the first grid of `n`, `n + 1`, … digits that has one reading back. -/
def shortestFrom (b : Binary) (point : Int) : Nat → Nat → Scaled
  | 0, n =>
    let e := point - n
    ⟨roundDiv (b.num * tenTo (-e).toNat) (b.den * tenTo e.toNat), e⟩
  | fuel + 1, n =>
    let e := point - n
    let num := b.num * tenTo (-e).toNat
    let den := b.den * tenTo e.toNat
    let floor := num / den
    let near := roundDiv num den
    let far := if near = floor then floor + 1 else floor
    if readsBack b near e then ⟨near, e⟩
    else if readsBack b far e then ⟨far, e⟩
    else shortestFrom b point fuel (n + 1)

/-- The digits of a positive number without trailing zeros, and the place of the point behind their
start. -/
def shortestDigits (b : Binary) : List Char × Int :=
  let found := shortestFrom b (pointOf b) 16 1
  let chars := digitChars found.digits
  ((chars.reverse.dropWhile (· = '0')).reverse, (chars.length : Int) + found.exponent)

/-- The exponent of scientific notation, with a sign and at least two digits. -/
def exponentText (e : Int) : String :=
  let digits := String.ofList (digitChars e.natAbs)
  (if e < 0 then "-" else "+") ++ (if digits.length < 2 then "0" ++ digits else digits)

/-- The digits of scientific notation: the point stands behind the first, if others follow. -/
def significand : List Char → List Char
  | [d] => [d]
  | d :: rest => d :: '.' :: rest
  | [] => ['0']

/-- Lays digits out around the point. -/
def layOut (digits : List Char) (point : Int) : String :=
  let n : Int := digits.length
  if -4 < point ∧ point ≤ 16 then
    if point ≤ 0 then "0." ++ String.ofList (List.replicate (-point).toNat '0' ++ digits)
    else if n ≤ point then
      String.ofList (digits ++ List.replicate (point - n).toNat '0') ++ ".0"
    else String.ofList (digits.take point.toNat ++ '.' :: digits.drop point.toNat)
  else String.ofList (significand digits) ++ "e" ++ exponentText (point - 1)

/-- The text of a finite number. -/
def Binary.text (b : Binary) : String :=
  (if b.negative then "-" else "") ++
    if b.mantissa = 0 then "0.0" else
      let (digits, point) := shortestDigits b
      layOut digits point

/-- The shortest text that reads back as `x`, with the words `nan` and `inf` for the rest. -/
def shortest (x : Float) : String :=
  match classify x with
  | .finite b => b.text
  | .infinite negative => if negative then "-inf" else "inf"
  | .nan => "nan"

end ImageImports.Decimal

import ImageImports.Decimal.Shortest

/-!
# Decimals with a fixed number of digits

A number is rounded once, from its exact value, to the asked number of significant digits; an exact
tie goes to the even digit.  `Binary.scientific` writes them with an exponent, `Binary.general` with
an exponent only where it would be far from the digits.
-/

namespace ImageImports.Decimal

/-- The significant digits of a positive fraction as a number of `count + 1` digits, and the exponent
of the first of them; `guess` is an exponent to begin with, no greater than the true one. -/
def significantFrom (num den count : Nat) : Nat → Int → Nat × Int
  | 0, exponent => (0, exponent)
  | fuel + 1, exponent =>
    let shift : Int := count - exponent
    let digits := roundDiv (num * tenTo shift.toNat) (den * tenTo (-shift).toNat)
    if digits < tenTo (count + 1) then (digits, exponent)
    else significantFrom num den count fuel (exponent + 1)

/-- An exponent that is at most three below that of the first digit of a positive fraction. -/
def exponentBelow (num den : Nat) : Int :=
  let binary : Int := (Nat.log2 num : Int) - (Nat.log2 den : Int) - 1
  binary * 30103 / 100000 - 1

/-- The digits of a finite number's magnitude, `count + 1` of them, and the exponent of the first. -/
def Binary.significant (b : Binary) (count : Nat) : List Char × Int :=
  if b.num = 0 then (List.replicate (count + 1) '0', 0)
  else
    let (digits, exponent) := significantFrom b.num b.den count 8 (exponentBelow b.num b.den)
    let chars := digitChars digits
    if chars.length ≤ count then (chars ++ List.replicate (count + 1 - chars.length) '0', exponent)
    else (chars, exponent)

/-- Digits with a point behind the first of them; the point stands alone only when `pointed`. -/
def pointAfterFirst (pointed : Bool) : List Char → String
  | [] => ""
  | d :: rest =>
    String.ofList (if rest.isEmpty ∧ !pointed then [d] else d :: '.' :: rest)

/-- The magnitude with `places` digits behind the point and an exponent. -/
def Binary.scientific (b : Binary) (places : Nat) (pointed : Bool) : String :=
  let (digits, exponent) := b.significant places
  pointAfterFirst pointed digits ++ "e" ++ exponentText exponent

/-- Digits without the zeros at their end. -/
def withoutZeros (digits : List Char) : List Char := (digits.reverse.dropWhile (· = '0')).reverse

/-- The magnitude with `precision` significant digits; zeros at the end are left out unless
`pointed`. -/
def Binary.general (b : Binary) (precision : Nat) (pointed : Bool) : String :=
  let count := max 1 precision - 1
  let (digits, exponent) := b.significant count
  let keep (ds : List Char) := if pointed then ds else withoutZeros ds
  if exponent < -4 ∨ (count : Int) < exponent then
    let digits := match keep digits with
      | [] => ['0']
      | ds => ds
    pointAfterFirst pointed digits ++ "e" ++ exponentText exponent
  else
    let (whole, fraction) :=
      if exponent < 0 then (['0'], List.replicate ((-exponent).toNat - 1) '0' ++ digits)
      else (digits.take (exponent.toNat + 1), digits.drop (exponent.toNat + 1))
    let fraction := keep fraction
    String.ofList (if fraction.isEmpty ∧ !pointed then whole else whole ++ '.' :: fraction)

end ImageImports.Decimal

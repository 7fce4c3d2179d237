import ImageImports.Decimal.Shortest

/-!
# Decimals with a fixed number of places

A number is rounded once, from its exact value, to the asked number of places; an exact tie goes to
the even digit.  `grouped` sets off every three digits of the whole part with commas.
-/

namespace ImageImports.Decimal

/-- A digit string with a comma before every third digit from the end. -/
def groupThousands (digits : List Char) : List Char :=
  (go 0 digits.reverse []).dropWhile (· = ',')
where
  /-- `digits` is what is left, last digit first; `count` digits have been laid out. -/
  go (count : Nat) : List Char → List Char → List Char
    | [], out => out
    | d :: rest, out =>
      go (count + 1) rest (if count % 3 = 2 then ',' :: d :: out else d :: out)

/-- An integer with its digits in groups of three. -/
def grouped (n : Int) : String :=
  (if n < 0 then "-" else "") ++ String.ofList (groupThousands (digitChars n.natAbs))

/-- `digits` with the last `places` of them behind the point. -/
def withPoint (digits : List Char) (places : Nat) : String :=
  let padded := List.replicate (places + 1 - digits.length) '0' ++ digits
  let whole := padded.take (padded.length - places)
  let rest := padded.drop (padded.length - places)
  String.ofList whole ++ if places = 0 then "" else "." ++ String.ofList rest

/-- A finite number with `places` digits behind the point. -/
def Binary.fixed (b : Binary) (places : Nat) : String :=
  (if b.negative then "-" else "") ++
    withPoint (digitChars (roundDiv (b.num * tenTo places) b.den)) places

end ImageImports.Decimal

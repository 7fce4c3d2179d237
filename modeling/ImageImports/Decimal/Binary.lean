/-!
# Double-precision numbers as exact fractions

A finite double-precision number is an integer times a power of two.  Everything this library
prints about such a number is decided on that integer and that exponent, in exact arithmetic, so
that no rounding happens except the one that a format asks for.

## Main results

* `roundDiv_mul_le`, `mul_le_roundDiv` — `roundDiv` is within half a unit of the quotient.
-/

namespace ImageImports.Decimal

/-! ## Rounding a quotient -/

/-- The integer nearest to `num / den`; of two that are equally near, the even one. -/
def roundDiv (num den : Nat) : Nat :=
  let floor := num / den
  let rest := num % den
  if 2 * rest < den then floor
  else if den < 2 * rest then floor + 1
  else if floor % 2 = 0 then floor else floor + 1

/-- Rounding takes at most half a unit away. -/
theorem roundDiv_mul_le (num : Nat) {den : Nat} (h : 0 < den) :
    2 * (roundDiv num den * den) ≤ 2 * num + den := by
  have hd := Nat.div_add_mod num den
  have hm := Nat.mod_lt num h
  have hc : num / den * den = den * (num / den) := Nat.mul_comm ..
  have hs : (num / den + 1) * den = den * (num / den) + den := by rw [Nat.succ_mul, hc]
  simp only [roundDiv]
  split
  · omega
  · split
    · omega
    · split <;> omega

/-- Rounding adds at most half a unit. -/
theorem mul_le_roundDiv (num : Nat) {den : Nat} (h : 0 < den) :
    2 * num ≤ 2 * (roundDiv num den * den) + den := by
  have hd := Nat.div_add_mod num den
  have hm := Nat.mod_lt num h
  have hc : num / den * den = den * (num / den) := Nat.mul_comm ..
  have hs : (num / den + 1) * den = den * (num / den) + den := by rw [Nat.succ_mul, hc]
  simp only [roundDiv]
  split
  · omega
  · split
    · omega
    · split <;> omega

/-! ## Finite numbers -/

/-- A power of ten. -/
def tenTo (k : Nat) : Nat := Nat.pow 10 k

/-- A finite double-precision number: `(-1)^negative · mantissa · 2^exponent`. -/
structure Binary where
  negative : Bool
  mantissa : Nat
  exponent : Int
  deriving DecidableEq, Inhabited

namespace Binary

/-- The magnitude as a numerator. -/
def num (b : Binary) : Nat := b.mantissa <<< b.exponent.toNat

/-- The magnitude's denominator. -/
def den (b : Binary) : Nat := 1 <<< (-b.exponent).toNat

/-- How far the number reaches into the gap above and below it that rounds to it, in quarters of its
last place: the gap below a power of two is half as wide. -/
def lowerQuarters (b : Binary) : Nat :=
  if b.mantissa = 1 <<< 52 ∧ -1074 < b.exponent then 1 else 2

end Binary

/-- What a double-precision number is. -/
inductive Class where
  | finite (b : Binary)
  | infinite (negative : Bool)
  | nan

/-- Takes a double-precision number apart. -/
def classify (x : Float) : Class :=
  let bits := x.toBits.toNat
  let negative := bits >>> 63 = 1
  let biased : Nat := (bits >>> 52) % 2048
  let fraction := bits % (1 <<< 52)
  if biased = 2047 then if fraction = 0 then .infinite negative else .nan
  else if biased = 0 then .finite ⟨negative, fraction, -1074⟩
  else .finite ⟨negative, (1 <<< 52) + fraction, Int.ofNat biased - 1075⟩

/-- The double-precision number nearest to `n / 2 ^ scale`, none when it is out of range. -/
def nearest? (n : Int) (scale : Nat) : Option Binary :=
  let magnitude := n.natAbs
  let length := Nat.log2 magnitude + 1
  if length ≤ 53 then some ⟨n < 0, magnitude, -(scale : Int)⟩
  else
    let dropped := length - 53
    let rounded := roundDiv magnitude (1 <<< dropped)
    if 1024 + scale < Nat.log2 rounded + dropped + 1 then none
    else some ⟨n < 0, rounded, (dropped : Int) - scale⟩

/-! ## The nearest double-precision number -/

/-- The exponent of the double-precision numbers around `num / den`: the quotient is less than
`2 ^ 53` times that power of two, and unless the exponent is the least there is, it is not less than
`2 ^ 52` times. -/
def exponentAround (num den : Nat) : Int :=
  let above := Nat.log2 num
  let below := Nat.log2 den
  -- Whether the quotient is less than the power of two that the lengths suggest.
  let isLess := num <<< (below - above) < den <<< (above - below)
  max (-1074) ((above : Int) - below - if isLess then 53 else 52)

/-- The bits of a magnitude without bounds; those of all others are less. -/
def infinityBits : Nat := 2047 <<< 52

/-- The bits of the magnitude nearest to `num / den`; of two that are equally near, the one with the
even mantissa.  A mantissa that is rounded up to `2 ^ 53` carries into the exponent. -/
def nearestBits (num den : Nat) : Nat :=
  if num = 0 then 0
  else
    let e := exponentAround num den
    let mantissa := roundDiv (num <<< (-e).toNat) (den <<< e.toNat)
    min infinityBits ((e + 1074).toNat <<< 52 + mantissa)

/-- The double-precision number with a sign and a magnitude. -/
def withSign (negative : Bool) (magnitude : Nat) : Float :=
  Float.ofBits (UInt64.ofNat ((if negative then 1 <<< 63 else 0) + magnitude))

/-- What is no number. -/
def nan : Float := Float.ofBits 0x7FF8000000000000

end ImageImports.Decimal

import ImageImports.Decimal.Reading
import ImageImports.Proofs.Decimal.Bits
import Mathlib.Algebra.Order.Field.Power
import Mathlib.Tactic.FieldSimp
import Mathlib.Tactic.NormNum
import Mathlib.Tactic.Positivity
import Mathlib.Tactic.Ring

/-!
# Decimals are read as the nearest number

Each double-precision number takes the reals around it: up to half a unit of its last place on both
sides, where the mantissa is even with the ends, and only a quarter below a power of two, since the
numbers there are twice as close (`Binary.Takes`).  A quotient that a number takes is read as that
number.  Its exponent is the number's own, except just below a power of two, where the mantissa is
rounded up to one bit more and the carry makes the exponent right (`Takes.exponent_cases`).

## Main results

* `exponentAround_spec` — the exponent around a quotient.
* `nearestBits_of_takes` — the bits nearest to a quotient are those of the number that takes it.
* `realOf_of_takes` — a decimal is read as the number that takes it.
-/

namespace ImageImports.Decimal

/-! ## Rounding a quotient -/

/-- Rounding gives the number that is within half a unit; at half a unit the even one. -/
theorem roundDiv_eq {num den m : Nat} (hden : 0 < den) (hlow : 2 * (m * den) ≤ 2 * num + den)
    (hhigh : 2 * num ≤ 2 * (m * den) + den)
    (hodd : m % 2 = 1 → 2 * (m * den) < 2 * num + den ∧ 2 * num < 2 * (m * den) + den) :
    roundDiv num den = m := by
  have hparts : num = num / den * den + num % den := (Nat.div_add_mod' num den).symm
  have hrest : num % den < den := Nat.mod_lt num hden
  simp only [roundDiv]
  generalize num / den = floor at hparts ⊢
  generalize num % den = rest at hparts hrest ⊢
  have hle : floor ≤ m := by
    by_contra hlt
    have := Nat.mul_le_mul_right den (Nat.not_le.1 hlt)
    rw [Nat.succ_mul] at this
    omega
  have hge : m ≤ floor + 1 := by
    by_contra hlt
    have := Nat.mul_le_mul_right den (Nat.not_le.1 hlt)
    rw [Nat.succ_mul, Nat.succ_mul] at this
    omega
  obtain rfl | rfl : m = floor ∨ m = floor + 1 := by omega
  · split
    · rfl
    · split
      · omega
      · split <;> omega
  · have hstep : (floor + 1) * den = floor * den + den := Nat.succ_mul floor den
    split
    · omega
    · split
      · rfl
      · split <;> omega

/-- A quotient shifted up or down. -/
theorem shift_div_shift (num den : Nat) (k : ℤ) :
    ((num <<< k.toNat : Nat) : ℚ) / (den <<< (-k).toNat : Nat) = num / den * 2 ^ k := by
  rw [Nat.shiftLeft_eq, Nat.shiftLeft_eq]
  push_cast
  obtain ⟨n, rfl | rfl⟩ := Int.eq_nat_or_neg k
  · simp
    ring
  · simp
    field_simp

/-- Rounding a quotient in units of `2 ^ e`. -/
theorem roundDiv_shift_eq {num den m : Nat} {e : ℤ} (hden : 0 < den)
    (hlow : (m - 1 / 2 : ℚ) * 2 ^ e ≤ num / den) (hhigh : (num / den : ℚ) ≤ (m + 1 / 2) * 2 ^ e)
    (hodd : m % 2 = 1 →
      (m - 1 / 2 : ℚ) * 2 ^ e < num / den ∧ (num / den : ℚ) < (m + 1 / 2) * 2 ^ e) :
    roundDiv (num <<< (-e).toNat) (den <<< e.toNat) = m := by
  have hshift := shift_div_shift num den (-e)
  rw [Int.neg_neg] at hshift
  have hpos : 0 < den <<< e.toNat := by
    rw [Nat.shiftLeft_eq]
    positivity
  generalize num <<< (-e).toNat = n at hshift ⊢
  generalize den <<< e.toNat = d at hshift hpos ⊢
  have hd : (0 : ℚ) < d := by exact_mod_cast hpos
  have hquotient : (num / den : ℚ) = n / d * 2 ^ e := by
    rw [hshift, zpow_neg]
    field_simp
  have hunit : (0 : ℚ) < 2 ^ e := zpow_pos two_pos _
  rw [hquotient, mul_le_mul_iff_left₀ hunit, le_div_iff₀ hd] at hlow
  rw [hquotient, mul_le_mul_iff_left₀ hunit, div_le_iff₀ hd] at hhigh
  rw [hquotient, mul_lt_mul_iff_left₀ hunit, mul_lt_mul_iff_left₀ hunit, lt_div_iff₀ hd,
    div_lt_iff₀ hd] at hodd
  refine roundDiv_eq hpos ?_ ?_ fun h => ⟨?_, ?_⟩
  · have : (2 * (m * d) : ℚ) ≤ 2 * n + d := by linarith
    exact_mod_cast this
  · have : (2 * n : ℚ) ≤ 2 * (m * d) + d := by linarith
    exact_mod_cast this
  · have : (2 * (m * d) : ℚ) < 2 * n + d := by linarith [(hodd h).1]
    exact_mod_cast this
  · have : (2 * n : ℚ) < 2 * (m * d) + d := by linarith [(hodd h).2]
    exact_mod_cast this

/-! ## The exponent -/

theorem log2_bounds {n : Nat} (h : 0 < n) :
    (2 : ℚ) ^ (n.log2 : ℤ) ≤ n ∧ (n : ℚ) < 2 ^ ((n.log2 : ℤ) + 1) := by
  have hlow := Nat.log2_self_le h.ne'
  have hhigh := Nat.lt_log2_self (n := n)
  constructor
  · exact_mod_cast hlow
  · exact_mod_cast hhigh

/-- A quotient is compared with a power of two by shifting. -/
theorem shiftLeft_lt_iff (num : Nat) {den : Nat} (hden : 0 < den) (m n : Nat) :
    num <<< (n - m) < den <<< (m - n) ↔ (num : ℚ) / den < 2 ^ ((m : ℤ) - n) := by
  have hpos : (0 : ℚ) < (den <<< (m - n) : Nat) := by
    rw [Nat.shiftLeft_eq]
    positivity
  have hshift := shift_div_shift num den (-((m : ℤ) - n))
  have hleft : (-((m : ℤ) - n)).toNat = n - m := by omega
  have hright : (- -((m : ℤ) - n)).toNat = m - n := by omega
  rw [hleft, hright, zpow_neg, ← div_eq_mul_inv] at hshift
  rw [← Nat.cast_lt (α := ℚ), ← div_lt_one hpos, hshift, div_lt_one (by positivity)]

/-- The exponent fits the quotient. -/
theorem exponentAround_spec {num den : Nat} (hnum : 0 < num) (hden : 0 < den) :
    -1074 ≤ exponentAround num den
      ∧ (num : ℚ) / den < 2 ^ (exponentAround num den + 53)
      ∧ (exponentAround num den ≠ -1074 → 2 ^ (exponentAround num den + 52) ≤ (num : ℚ) / den) := by
  obtain ⟨hnlow, hnhigh⟩ := log2_bounds hnum
  obtain ⟨hdlow, hdhigh⟩ := log2_bounds hden
  have hden' : (0 : ℚ) < den := by exact_mod_cast hden
  -- The lengths alone leave two binary places open.
  have hbelow : (2 : ℚ) ^ ((num.log2 : ℤ) - den.log2 - 1) ≤ num / den := by
    rw [le_div_iff₀ hden']
    calc (2 : ℚ) ^ ((num.log2 : ℤ) - den.log2 - 1) * den
        ≤ 2 ^ ((num.log2 : ℤ) - den.log2 - 1) * 2 ^ ((den.log2 : ℤ) + 1) := by gcongr
      _ = 2 ^ (num.log2 : ℤ) := by rw [← zpow_add₀ two_ne_zero]; congr 1; ring
      _ ≤ num := hnlow
  have habove : (num : ℚ) / den < 2 ^ ((num.log2 : ℤ) - den.log2 + 1) := by
    rw [div_lt_iff₀ hden']
    calc (num : ℚ) < 2 ^ ((num.log2 : ℤ) + 1) := hnhigh
      _ = 2 ^ ((num.log2 : ℤ) - den.log2 + 1) * 2 ^ (den.log2 : ℤ) := by
        rw [← zpow_add₀ (by norm_num)]; congr 1; ring
      _ ≤ 2 ^ ((num.log2 : ℤ) - den.log2 + 1) * den := by gcongr
  have hless := shiftLeft_lt_iff num hden num.log2 den.log2
  simp only [exponentAround, hless]
  split
  · next h =>
    refine ⟨le_max_left _ _, ?_, fun hne => ?_⟩
    · exact h.trans_le (zpow_le_zpow_right₀ one_le_two (by omega))
    · exact le_trans (zpow_le_zpow_right₀ one_le_two (by omega)) hbelow
  · next h =>
    refine ⟨le_max_left _ _, ?_, fun hne => ?_⟩
    · exact habove.trans_le (zpow_le_zpow_right₀ one_le_two (by omega))
    · exact le_trans (zpow_le_zpow_right₀ one_le_two (by omega)) (not_lt.1 h)

/-! ## Reals that round to a number -/

namespace Binary

/-- What a number is worth in its last place. -/
def unit (b : Binary) : ℚ := 2 ^ b.exponent

/-- The magnitude. -/
def value (b : Binary) : ℚ := b.mantissa * b.unit

/-- Whether `w` is among the reals that round to the magnitude of `b`. -/
structure Takes (b : Binary) (w : ℚ) : Prop where
  low : b.value - b.lowerQuarters / 4 * b.unit ≤ w
  high : w ≤ b.value + b.unit / 2
  odd : b.mantissa % 2 = 1 →
    b.value - b.lowerQuarters / 4 * b.unit < w ∧ w < b.value + b.unit / 2

theorem unit_pos (b : Binary) : 0 < b.unit := zpow_pos two_pos _

theorem pow_mul_unit (b : Binary) (n : Nat) : 2 ^ n * b.unit = 2 ^ (b.exponent + n) := by
  rw [unit, zpow_add₀ two_ne_zero, zpow_natCast, mul_comm]

/-- The gap below a number reaches at most half a unit down. -/
theorem half_le_low (b : Binary) :
    (b.mantissa - 1 / 2 : ℚ) * b.unit ≤ b.value - b.lowerQuarters / 4 * b.unit := by
  have hquarters : (b.lowerQuarters : ℚ) ≤ 2 := by
    unfold lowerQuarters
    split <;> norm_num
  have hunit := b.unit_pos
  calc (b.mantissa - 1 / 2 : ℚ) * b.unit = b.value - 2 / 4 * b.unit := by rw [value]; ring
    _ ≤ b.value - b.lowerQuarters / 4 * b.unit := by gcongr

variable {b : Binary} {num den : Nat} {w : ℚ}

theorem Takes.half_low (h : b.Takes w) : (b.mantissa - 1 / 2 : ℚ) * b.unit ≤ w :=
  b.half_le_low.trans h.low

theorem Takes.half_high (h : b.Takes w) : w ≤ (b.mantissa + 1 / 2 : ℚ) * b.unit := by
  have hhigh := h.high
  rw [value] at hhigh
  linarith

theorem Takes.half_of_odd (h : b.Takes w) (hodd : b.mantissa % 2 = 1) :
    (b.mantissa - 1 / 2 : ℚ) * b.unit < w ∧ w < (b.mantissa + 1 / 2 : ℚ) * b.unit := by
  obtain ⟨hlow, hhigh⟩ := h.odd hodd
  rw [value] at hhigh
  exact ⟨b.half_le_low.trans_lt hlow, by linarith⟩

theorem Takes.pos (h : b.Takes w) (hpos : 0 < b.mantissa) : 0 < w := by
  have hmantissa : (1 : ℚ) ≤ b.mantissa := by exact_mod_cast hpos
  have hunit := b.unit_pos
  have hlow := h.half_low
  nlinarith

/-- What a number takes has no larger exponent. -/
theorem Takes.exponent_le {e : ℤ} (h : b.Takes w) (hb : b.Canonical)
    (hbelow : e ≠ -1074 → 2 ^ (e + 52) ≤ w) : e ≤ b.exponent := by
  by_contra hgt
  -- The real would be larger than all that a mantissa of the number's length can say.
  have hmore : 2 ^ 53 * b.unit ≤ w := by
    rw [pow_mul_unit]
    refine le_trans (zpow_le_zpow_right₀ one_le_two ?_) (hbelow ?_)
    · push_cast
      omega
    · have := hb.least
      omega
  have hmantissa : (b.mantissa : ℚ) + 1 ≤ 2 ^ 53 := by exact_mod_cast hb.mantissa_lt
  have := le_of_mul_le_mul_right (hmore.trans h.half_high) b.unit_pos
  linarith

/-- What a number takes has a smaller exponent only just below a power of two. -/
theorem Takes.just_below {e : ℤ} (h : b.Takes w) (hb : b.Canonical) (hleast : -1074 ≤ e)
    (habove : w < 2 ^ (e + 53)) (hlt : e < b.exponent) :
    e = b.exponent - 1 ∧ b.mantissa = 2 ^ 52 ∧ (2 ^ 53 - 1 / 2) * 2 ^ e ≤ w := by
  have hunit := b.unit_pos
  have hless (n : Nat) (hn : e + 53 ≤ b.exponent + n) : w < 2 ^ n * b.unit := by
    rw [pow_mul_unit]
    exact habove.trans_le (zpow_le_zpow_right₀ one_le_two hn)
  -- The mantissa is full, and not by more than its leading bit.
  have hfull : 2 ^ 52 ≤ b.mantissa := hb.full.resolve_right (by omega)
  have hmantissa : b.mantissa = 2 ^ 52 := by
    refine le_antisymm (Nat.le_of_lt_succ ?_) hfull
    have := lt_of_mul_lt_mul_right (h.half_low.trans_lt (hless 52 (by omega))) hunit.le
    have : (b.mantissa : ℚ) < (2 ^ 52 + 1 : Nat) := by
      push_cast
      linarith
    exact_mod_cast this
  have hlow := h.low
  rw [value, lowerQuarters, if_pos ⟨hmantissa, by omega⟩, hmantissa] at hlow
  push_cast at hlow
  have hnext : e = b.exponent - 1 := by
    by_contra hne
    have := hless 51 (by omega)
    nlinarith
  have hhalf : (2 : ℚ) ^ e = b.unit / 2 := by
    rw [hnext, zpow_sub_one₀ two_ne_zero, unit, div_eq_mul_inv]
  refine ⟨hnext, hmantissa, ?_⟩
  rw [hhalf]
  linarith

/-- What a number takes has its exponent, or it lies just below a power of two and has the exponent
below. -/
theorem Takes.exponent_cases {e : ℤ} (h : b.Takes w) (hb : b.Canonical) (hleast : -1074 ≤ e)
    (habove : w < 2 ^ (e + 53)) (hbelow : e ≠ -1074 → 2 ^ (e + 52) ≤ w) :
    e = b.exponent ∨ e = b.exponent - 1 ∧ b.mantissa = 2 ^ 52 ∧ (2 ^ 53 - 1 / 2) * 2 ^ e ≤ w := by
  rcases (h.exponent_le hb hbelow).eq_or_lt with heq | hlt
  · exact .inl heq
  · exact .inr (h.just_below hb hleast habove hlt)

/-- The bits nearest to a quotient that a number takes are those of the number. -/
theorem nearestBits_of_takes (hb : b.Canonical) (hpos : 0 < b.mantissa) (hden : 0 < den)
    (h : b.Takes (num / den)) : nearestBits num den = b.bits := by
  have hnum : 0 < num := by
    have hquotient := h.pos hpos
    rcases Nat.eq_zero_or_pos num with rfl | hnum
    · rw [Nat.cast_zero, zero_div] at hquotient
      exact absurd hquotient (lt_irrefl 0)
    · exact hnum
  obtain ⟨hleast, habove, hbelow⟩ := exponentAround_spec hnum hden
  have hbits : (exponentAround num den + 1074).toNat <<< 52
      + roundDiv (num <<< (-exponentAround num den).toNat) (den <<< (exponentAround num den).toNat)
        = b.bits := by
    generalize exponentAround num den = e at hleast habove hbelow ⊢
    rcases h.exponent_cases hb hleast habove hbelow with rfl | ⟨rfl, hmantissa, hlow⟩
    · rw [roundDiv_shift_eq hden h.half_low h.half_high h.half_of_odd, bits]
    · -- The mantissa is rounded up to one bit more, which carries into the exponent.
      have hround : roundDiv (num <<< (-(b.exponent - 1)).toNat) (den <<< (b.exponent - 1).toNat)
          = 2 ^ 53 := by
        refine roundDiv_shift_eq hden (by exact_mod_cast hlow) (habove.le.trans ?_)
          fun hodd => absurd hodd (by decide)
        have hunit : (0 : ℚ) < 2 ^ (b.exponent - 1) := zpow_pos two_pos _
        rw [zpow_add₀ two_ne_zero, mul_comm]
        gcongr
        norm_num
      have hfull := hb.full
      rw [hround, bits, hmantissa, Nat.shiftLeft_eq, Nat.shiftLeft_eq]
      omega
  rw [nearestBits, if_neg hnum.ne']
  dsimp only
  rw [hbits, Nat.min_eq_right hb.bits_lt.le]

/-- What a number takes is not too large. -/
theorem Takes.lt_pow (h : b.Takes w) (hb : b.Canonical) : w < 2 ^ (1024 : ℤ) := by
  have hmantissa : (b.mantissa : ℚ) + 1 ≤ 2 ^ 53 := by exact_mod_cast hb.mantissa_lt
  have hunit : b.unit ≤ 2 ^ (971 : ℤ) := zpow_le_zpow_right₀ (by norm_num) hb.most
  have hpow : (2 : ℚ) ^ (1024 : ℤ) = 2 ^ 53 * 2 ^ (971 : ℤ) := zpow_add₀ two_ne_zero 53 971
  rw [hpow]
  generalize (2 : ℚ) ^ (971 : ℤ) = most at hunit
  have := b.unit_pos
  calc w ≤ (b.mantissa + 1 / 2) * b.unit := h.half_high
    _ < (b.mantissa + 1) * b.unit := by
      gcongr
      norm_num
    _ ≤ 2 ^ 53 * most := by gcongr

/-- Unless the number is zero, it is not too small either. -/
theorem Takes.pow_le (h : b.Takes w) (hb : b.Canonical) (hpos : 0 < b.mantissa) :
    2 ^ (-1075 : ℤ) ≤ w := by
  have hmantissa : (1 : ℚ) ≤ b.mantissa := by exact_mod_cast hpos
  have hunit : (2 : ℚ) ^ (-1074 : ℤ) ≤ b.unit := zpow_le_zpow_right₀ (by norm_num) hb.least
  have hpow : (2 : ℚ) ^ (-1075 : ℤ) = 2 ^ (-1 : ℤ) * 2 ^ (-1074 : ℤ) :=
    zpow_add₀ two_ne_zero (-1) (-1074)
  have hpositive : (0 : ℚ) < 2 ^ (-1074 : ℤ) := zpow_pos two_pos _
  rw [hpow]
  generalize (2 : ℚ) ^ (-1074 : ℤ) = least at hunit hpositive
  calc (2 : ℚ) ^ (-1 : ℤ) * least = (1 - 1 / 2) * least := by norm_num
    _ ≤ (b.mantissa - 1 / 2) * b.unit := by
      gcongr
      linarith
    _ ≤ w := h.half_low

end Binary

/-! ## Reading a decimal -/

theorem cast_tenTo (k : Nat) : ((tenTo k : Nat) : ℚ) = 10 ^ k := by
  rw [tenTo]
  exact_mod_cast rfl

theorem tenTo_pos (k : Nat) : 0 < tenTo k := Nat.pow_pos (by decide)

/-- A decimal as a quotient. -/
theorem tenTo_div_tenTo (n : Nat) (k : ℤ) :
    ((n * tenTo k.toNat : Nat) : ℚ) / (tenTo (-k).toNat : Nat) = n * 10 ^ k := by
  rw [Nat.cast_mul, cast_tenTo, cast_tenTo]
  obtain ⟨m, rfl | rfl⟩ := Int.eq_nat_or_neg k
  · simp
  · simp [div_eq_mul_inv]

section

variable {b : Binary} {digits : Nat} {exponent : ℤ}

/-- A decimal that is taken is not above the range in which powers of ten are computed. -/
theorem Binary.Takes.exponent_le_309 (h : b.Takes (digits * 10 ^ exponent)) (hb : b.Canonical)
    (hdigits : 0 < digits) : exponent ≤ 309 := by
  by_contra hlarge
  have hmost : (2 : ℚ) ^ (1024 : ℤ) ≤ 10 ^ (310 : ℤ) := by
    have hnat : (2 : Nat) ^ 1024 ≤ 10 ^ 310 := by decide +kernel
    rw [zpow_ofNat, zpow_ofNat]
    exact_mod_cast hnat
  have hone : (1 : ℚ) ≤ digits := by exact_mod_cast hdigits
  refine absurd (h.lt_pow hb) (not_lt.2 ?_)
  calc (2 : ℚ) ^ (1024 : ℤ) ≤ 10 ^ (310 : ℤ) := hmost
    _ ≤ 10 ^ exponent := zpow_le_zpow_right₀ (by norm_num) (not_le.1 hlarge)
    _ ≤ digits * 10 ^ exponent := le_mul_of_one_le_left (by positivity) hone

/-- A decimal that is taken is not below that range either. -/
theorem Binary.Takes.le_exponent_add_log2 (h : b.Takes (digits * 10 ^ exponent))
    (hb : b.Canonical) (hpos : 0 < b.mantissa) (hdigits : 0 < digits) :
    -1100 ≤ exponent + Nat.log2 digits := by
  by_contra hsmall
  have hten : (10 : ℚ) ^ exponent ≤ 2 ^ exponent := by
    obtain ⟨n, rfl⟩ := Int.exists_eq_neg_ofNat (show exponent ≤ 0 by omega)
    rw [zpow_neg, zpow_neg, zpow_natCast, zpow_natCast]
    gcongr
    norm_num
  have hless : (2 : ℚ) ^ (-1075 : ℤ) < 2 ^ ((digits.log2 : ℤ) + 1 + exponent) := calc
    (2 : ℚ) ^ (-1075 : ℤ) ≤ digits * 10 ^ exponent := h.pow_le hb hpos
    _ ≤ digits * 2 ^ exponent := by gcongr
    _ < 2 ^ ((digits.log2 : ℤ) + 1) * 2 ^ exponent := by
      gcongr
      exact (log2_bounds hdigits).2
    _ = 2 ^ ((digits.log2 : ℤ) + 1 + exponent) := (zpow_add₀ two_ne_zero _ _).symm
  have := (zpow_lt_zpow_iff_right₀ one_lt_two).1 hless
  omega

/-- A decimal is read as the number that takes it. -/
theorem realOf_of_takes (hb : b.Canonical) (hpos : 0 < b.mantissa)
    (h : b.Takes (digits * 10 ^ exponent)) :
    realOf b.negative digits exponent = withSign b.negative b.bits := by
  have hdigits : 0 < digits := by
    have hw := h.pos hpos
    rcases Nat.eq_zero_or_pos digits with rfl | hdigits
    · rw [Nat.cast_zero, zero_mul] at hw
      exact absurd hw (lt_irrefl 0)
    · exact hdigits
  have hlarge := h.exponent_le_309 hb hdigits
  have hsmall := h.le_exponent_add_log2 hb hpos hdigits
  rw [← tenTo_div_tenTo] at h
  rw [realOf, if_neg hdigits.ne', if_neg hlarge.not_gt, if_neg hsmall.not_gt,
    Binary.nearestBits_of_takes hb hpos (tenTo_pos _) h]

end

end ImageImports.Decimal

import ImageImports.Decimal.Shortest
import ImageImports.Proofs.Decimal.Nearest
import Mathlib.Data.List.DropRight

/-!
# The shortest decimal reads back

The search for the shortest decimal ends with one that the number takes: either it was found to be
one, or it has seventeen digits, and on a grid as fine as that the nearest decimal is nearer than
the gaps beside the number.  For the grid to be fine enough the point must not be placed too high,
and the first guess at its place is low enough because ten to the third is less than two to the tenth
and, for numbers below one, two to the ninety-third less than ten to the twenty-eighth.

## Main results

* `takes_of_readsBack` — what is found to read back does.
* `takes_seventeen` — seventeen digits are always enough.
* `takes_shortestDigits` — the digits that are written read back.
-/

namespace ImageImports.Decimal

open Binary

/-! ## Decimals that are found to read back -/

theorem Binary.num_div_den (b : Binary) : (b.num / b.den : ℚ) = b.value := by
  have h := shift_div_shift b.mantissa 1 b.exponent
  rw [num, den, value, unit, h, Nat.cast_one, div_one]

theorem Binary.den_pos (b : Binary) : 0 < b.den := by
  rw [den, Nat.shiftLeft_eq]
  positivity

theorem Binary.unit_mul_den (b : Binary) : b.unit * b.den = 2 ^ b.exponent.toNat := by
  have hden := b.den_pos
  have h := shift_div_shift 1 1 b.exponent
  rw [Nat.cast_one, div_one, one_mul, ← unit, ← den, Nat.one_shiftLeft, Nat.cast_pow,
    Nat.cast_ofNat] at h
  rw [← h, div_mul_cancel₀ _ (by positivity)]

variable {b : Binary}

/-- What a decimal that is found to read back was found to be. -/
theorem bounds_of_readsBack {c : Nat} {e : ℤ} (h : readsBack b c e = true) :
    let scaled := 4 * c * tenTo e.toNat * b.den
    let value := 4 * b.num * tenTo (-e).toNat
    let quarter := tenTo (-e).toNat <<< b.exponent.toNat
    value ≤ scaled + b.lowerQuarters * quarter ∧ scaled ≤ value + 2 * quarter
      ∧ (b.mantissa % 2 = 1 →
        value < scaled + b.lowerQuarters * quarter ∧ scaled < value + 2 * quarter) := by
  intro scaled value quarter
  change (if b.mantissa % 2 = 0 then _ else _) = true at h
  generalize b.lowerQuarters * quarter = gap at h ⊢
  by_cases heven : b.mantissa % 2 = 0
  · simp only [heven, if_true, Bool.and_eq_true, decide_eq_true_eq] at h
    omega
  · simp only [heven, if_false, Bool.and_eq_true, decide_eq_true_eq] at h
    omega

/-- A real is taken when its distance to the number, in some unit, is within whole bounds. -/
theorem takes_of_scaled {w scale : ℚ} {scaled value quarter : Nat} (hscale : 0 < scale)
    (hscaled : scaled = w * scale) (hvalue : value = b.value * scale)
    (hquarter : quarter = b.unit / 4 * scale) (hle : value ≤ scaled + b.lowerQuarters * quarter)
    (hge : scaled ≤ value + 2 * quarter)
    (hodd : b.mantissa % 2 = 1 →
      value < scaled + b.lowerQuarters * quarter ∧ scaled < value + 2 * quarter) :
    b.Takes w := by
  have hlow : (b.value - b.lowerQuarters / 4 * b.unit) * scale
      = value - b.lowerQuarters * quarter := by
    rw [hvalue, hquarter]
    ring
  have hhigh : (b.value + b.unit / 2) * scale = value + 2 * quarter := by
    rw [hvalue, hquarter]
    ring
  refine ⟨?_, ?_, fun h => ⟨?_, ?_⟩⟩
  · rw [← mul_le_mul_iff_left₀ hscale, hlow, ← hscaled, sub_le_iff_le_add]
    exact_mod_cast hle
  · rw [← mul_le_mul_iff_left₀ hscale, hhigh, ← hscaled]
    exact_mod_cast hge
  · rw [← mul_lt_mul_iff_left₀ hscale, hlow, ← hscaled, sub_lt_iff_lt_add]
    exact_mod_cast (hodd h).1
  · rw [← mul_lt_mul_iff_left₀ hscale, hhigh, ← hscaled]
    exact_mod_cast (hodd h).2

/-- A decimal that is found to read back is among the reals that round to the number. -/
theorem takes_of_readsBack {c : Nat} {e : ℤ} (h : readsBack b c e = true) :
    b.Takes (c * 10 ^ e) := by
  have hden := b.den_pos
  have hten := tenTo_pos (-e).toNat
  -- Everything is compared times this.
  have hscale : (0 : ℚ) < 4 * b.den * tenTo (-e).toNat := by positivity
  have hscaled : ((4 * c * tenTo e.toNat * b.den : Nat) : ℚ)
      = c * 10 ^ e * (4 * b.den * tenTo (-e).toNat) := by
    rw [← tenTo_div_tenTo]
    push_cast
    field_simp
  have hvalue : ((4 * b.num * tenTo (-e).toNat : Nat) : ℚ)
      = b.value * (4 * b.den * tenTo (-e).toNat) := by
    rw [← b.num_div_den]
    push_cast
    field_simp
  have hquarter : ((tenTo (-e).toNat <<< b.exponent.toNat : Nat) : ℚ)
      = b.unit / 4 * (4 * b.den * tenTo (-e).toNat) := by
    rw [Nat.shiftLeft_eq, Nat.cast_mul, Nat.cast_pow, Nat.cast_ofNat, ← b.unit_mul_den]
    ring
  obtain ⟨hle, hge, hodd⟩ := bounds_of_readsBack h
  exact takes_of_scaled hscale hscaled hvalue hquarter hle hge hodd

/-! ## Seventeen digits -/

/-- What a decimal is worth. -/
def Scaled.value (s : Scaled) : ℚ := s.digits * 10 ^ s.exponent

/-- A quotient in units of a power of ten. -/
theorem grid_eq (num den : Nat) (e : ℤ) :
    ((num * tenTo (-e).toNat : Nat) : ℚ) / (den * tenTo e.toNat : Nat) = num / den * 10 ^ (-e) := by
  have h := tenTo_div_tenTo num (-e)
  rw [Int.neg_neg] at h
  rw [div_mul_eq_mul_div, ← h, Nat.cast_mul den, div_div, mul_comm (den : ℚ)]

/-- Rounding to a grid moves a real by half a step at most. -/
theorem abs_roundDiv_sub_le (num : Nat) {den : Nat} (hden : 0 < den) :
    |(roundDiv num den : ℚ) - num / den| ≤ 1 / 2 := by
  have hd : (0 : ℚ) < den := by exact_mod_cast hden
  have hlow : (2 * (roundDiv num den * den) : ℚ) ≤ 2 * num + den := by
    exact_mod_cast roundDiv_mul_le num hden
  have hhigh : (2 * num : ℚ) ≤ 2 * (roundDiv num den * den) + den := by
    exact_mod_cast mul_le_roundDiv num hden
  have hnum : (num / den : ℚ) * den = num := div_mul_cancel₀ _ hd.ne'
  rw [abs_le]
  constructor <;> nlinarith

/-- What is nearer than the gaps beside a number rounds to it. -/
theorem takes_of_abs_lt {w : ℚ} (h : |w - b.value| < b.value / 2 ^ 54) (hb : b.Canonical) :
    b.Takes w := by
  have hunit := b.unit_pos
  have hmantissa : (b.mantissa : ℚ) < 2 ^ 53 := by exact_mod_cast hb.mantissa_lt
  have hgap : b.value / 2 ^ 54 ≤ b.lowerQuarters / 4 * b.unit := by
    have hquarters : (b.mantissa : ℚ) / 2 ^ 54 ≤ b.lowerQuarters / 4 := by
      unfold lowerQuarters
      split
      · next hleast =>
        rw [hleast.1, Nat.one_shiftLeft, Nat.cast_pow]
        norm_num
      · calc (b.mantissa : ℚ) / 2 ^ 54 ≤ 2 ^ 53 / 2 ^ 54 := by gcongr
          _ = ((2 : ℕ) : ℚ) / 4 := by norm_num
    rw [value, mul_div_right_comm]
    gcongr
  have hhalf : (b.lowerQuarters : ℚ) / 4 * b.unit ≤ b.unit / 2 := by
    have hhalf := b.half_le_low
    rw [value] at hhalf
    linarith
  obtain ⟨hlow, hhigh⟩ := abs_lt.1 h
  exact ⟨by linarith, by linarith, fun _ => ⟨by linarith, by linarith⟩⟩

/-- A number rounded to seventeen digits reads back. -/
theorem takes_seventeen {point : ℤ} (hb : b.Canonical)
    (hpoint : (10 : ℚ) ^ (point - 1) ≤ b.value) :
    b.Takes ((roundDiv (b.num * tenTo (-(point - 17)).toNat) (b.den * tenTo (point - 17).toNat) : ℚ)
      * 10 ^ (point - 17)) := by
  have hgrid : ((b.num * tenTo (-(point - 17)).toNat : Nat) : ℚ)
      / (b.den * tenTo (point - 17).toNat : Nat) * 10 ^ (point - 17) = b.value := by
    rw [grid_eq, zpow_neg, mul_assoc, inv_mul_cancel₀ (by positivity), mul_one, b.num_div_den]
  have hstep : (0 : ℚ) < 10 ^ (point - 17) := by positivity
  have hden : 0 < b.den * tenTo (point - 17).toNat := Nat.mul_pos b.den_pos (tenTo_pos _)
  have hround := abs_roundDiv_sub_le (b.num * tenTo (-(point - 17)).toNat) hden
  refine takes_of_abs_lt ?_ hb
  rw [← hgrid, ← sub_mul, abs_mul, abs_of_pos hstep, hgrid]
  have hpow : (10 : ℚ) ^ (point - 1) = 10 ^ (16 : ℤ) * 10 ^ (point - 17) := by
    rw [← zpow_add₀ (by norm_num)]
    congr 1
    ring
  rw [hpow] at hpoint
  calc _ ≤ (1 / 2 : ℚ) * 10 ^ (point - 17) := by gcongr
    _ < 10 ^ (16 : ℤ) * 10 ^ (point - 17) / 2 ^ 54 := by
      rw [lt_div_iff₀ (by norm_num)]
      norm_num
      linarith
    _ ≤ b.value / 2 ^ 54 := by gcongr

/-- What the search for the shortest decimal ends with reads back. -/
theorem takes_shortestFrom {point : ℤ} (hb : b.Canonical)
    (hpoint : (10 : ℚ) ^ (point - 1) ≤ b.value) {fuel n : Nat} (h : fuel + n = 17) :
    b.Takes (shortestFrom b point fuel n).value := by
  induction fuel generalizing n with
  | zero =>
    obtain rfl : n = 17 := by omega
    exact takes_seventeen hb hpoint
  | succ fuel ih =>
    rw [shortestFrom]
    refine iteInduction (motive := fun s : Scaled => b.Takes s.value)
      (fun hnear => takes_of_readsBack hnear) fun _ => ?_
    refine iteInduction (motive := fun s : Scaled => b.Takes s.value)
      (fun hfar => takes_of_readsBack hfar) fun _ => ?_
    exact ih (by omega)

/-! ## The place of the point -/

/-- Where the search for the point begins low enough, it ends low enough. -/
theorem decimalPoint_le {num den : Nat} (hden : 0 < den) {fuel : Nat} {k : ℤ}
    (h : (10 : ℚ) ^ (k - 1) ≤ num / den) :
    (10 : ℚ) ^ (decimalPoint num den fuel k - 1) ≤ num / den := by
  induction fuel generalizing k with
  | zero => exact h
  | succ fuel ih =>
    rw [decimalPoint]
    split
    · exact h
    · next hnot =>
      apply ih
      rw [add_sub_cancel_right]
      have hgrid := grid_eq num den k
      have hpos : (0 : ℚ) < (den * tenTo k.toNat : Nat) := by
        exact_mod_cast Nat.mul_pos hden (tenTo_pos _)
      have hone : (1 : ℚ) ≤ num / den * 10 ^ (-k) := by
        rw [← hgrid, one_le_div₀ hpos]
        exact_mod_cast Nat.not_lt.1 hnot
      rw [zpow_neg, ← div_eq_mul_inv, one_le_div₀ (by positivity)] at hone
      exact hone

theorem ten_zpow_le_two_zpow_of_pow {k l : ℤ} {m n : Nat} (hn : n ≠ 0) (h : n * k ≤ m * l)
    (hpow : ((10 : ℚ) ^ m) ^ l ≤ (2 ^ n) ^ l) : (10 : ℚ) ^ k ≤ 2 ^ l := by
  refine (pow_le_pow_iff_left₀ (by positivity) (by positivity) hn).1 ?_
  calc ((10 : ℚ) ^ k) ^ n = 10 ^ (n * k) := by rw [← zpow_natCast, ← zpow_mul, mul_comm]
    _ ≤ 10 ^ (m * l) := zpow_le_zpow_right₀ (by norm_num) h
    _ = (10 ^ m) ^ l := by rw [zpow_mul, zpow_natCast]
    _ ≤ (2 ^ n) ^ l := hpow
    _ = (2 ^ l) ^ n := by
      rw [← zpow_natCast, ← zpow_mul, ← zpow_natCast, ← zpow_mul, mul_comm]

/-- Powers of ten compared with powers of two: ten to the third is less than two to the tenth, and
two to the ninety-third less than ten to the twenty-eighth. -/
theorem ten_zpow_le_two_zpow {k l : ℤ} (hup : 0 ≤ l → 10 * k ≤ 3 * l)
    (hdown : l ≤ 0 → 93 * k ≤ 28 * l) : (10 : ℚ) ^ k ≤ 2 ^ l := by
  rcases Int.le_total 0 l with hl | hl
  · refine ten_zpow_le_two_zpow_of_pow (m := 3) (n := 10) (by decide) (hup hl) ?_
    obtain ⟨n, rfl⟩ := Int.eq_ofNat_of_zero_le hl
    rw [zpow_natCast, zpow_natCast]
    gcongr
    norm_num
  · refine ten_zpow_le_two_zpow_of_pow (m := 28) (n := 93) (by decide) (hdown hl) ?_
    obtain ⟨n, rfl⟩ := Int.exists_eq_neg_ofNat hl
    rw [zpow_neg, zpow_neg, zpow_natCast, zpow_natCast]
    gcongr
    norm_num

/-- The place of the point is not too high. -/
theorem pointOf_le (hb : b.Canonical) (hpos : 0 < b.mantissa) :
    (10 : ℚ) ^ (pointOf b - 1) ≤ b.value := by
  obtain ⟨hmantissa, hleast, hmost, -⟩ := hb
  have hlog : b.mantissa.log2 < 53 := (Nat.log2_lt hpos.ne').2 hmantissa
  have hvalue : (2 : ℚ) ^ (b.mantissa.log2 + b.exponent) ≤ b.value := by
    rw [zpow_add₀ (by norm_num), value, unit]
    gcongr
    exact (log2_bounds hpos).1
  rw [← b.num_div_den, pointOf]
  apply decimalPoint_le b.den_pos
  rw [b.num_div_den]
  refine le_trans (ten_zpow_le_two_zpow ?_ ?_) hvalue
  · intro h
    rw [Int.fdiv_eq_ediv_of_nonneg _ (by decide)]
    omega
  · intro h
    rw [Int.fdiv_eq_ediv_of_nonneg _ (by decide)]
    omega

/-! ## The digits -/

theorem digitsValue_append (xs ys : List Char) :
    digitsValue (xs ++ ys) = digitsValue xs * 10 ^ ys.length + digitsValue ys := by
  rw [digitsValue, Nat.ofDigitChars_append, Nat.ofDigitChars_eq_ofDigitChars_zero, Nat.mul_comm]
  rfl

theorem digitsValue_replicate_zero (n : Nat) : digitsValue (List.replicate n '0') = 0 := by
  rw [digitsValue, Nat.ofDigitChars_replicate_zero, Nat.mul_zero]

/-- The digits of a number spell the number. -/
theorem digitsValue_toDigits (n : Nat) : digitsValue (Nat.toDigits 10 n) = n :=
  Nat.ofDigitChars_ten_toDigits

/-- The digits of a number do not begin with a zero, unless the number is zero. -/
theorem head?_toDigits {n : Nat} (h : 0 < n) : (Nat.toDigits 10 n).head? ≠ some '0' := by
  induction n using Nat.strong_induction_on with
  | _ n ih =>
    rw [Nat.toDigits_eq_if (by decide)]
    split
    · next hsmall =>
      have hdigit : ∀ m < 10, 0 < m → [m.digitChar].head? ≠ some '0' := by decide
      exact hdigit n hsmall h
    · next hlarge =>
      have hhead := ih (n / 10) (by omega) (by omega)
      obtain ⟨d, digits, hdigits⟩ :=
        List.exists_cons_of_ne_nil (Nat.toDigits_ne_nil (n := n / 10) (b := 10))
      rw [hdigits] at hhead ⊢
      exact hhead

/-- The digits of a number that does not begin with a zero. -/
structure Leading (digits : List Char) : Prop where
  isDigit : ∀ d ∈ digits, d.isDigit = true
  head : ∃ d rest, digits = d :: rest ∧ d ≠ '0'

theorem Leading.ne_nil {digits : List Char} (h : Leading digits) : digits ≠ [] := by
  obtain ⟨d, rest, rfl, -⟩ := h.head
  exact List.cons_ne_nil d rest

variable {b : Binary}

/-- Digits are those left without the zeros at the end, and the zeros. -/
theorem exists_zeros (digits : List Char) : ∃ zeros : Nat,
    digits = (digits.reverse.dropWhile (· = '0')).reverse ++ List.replicate zeros '0' := by
  refine ⟨(digits.rtakeWhile (· = '0')).length, ?_⟩
  have hzeros : digits.rtakeWhile (· = '0')
      = List.replicate (digits.rtakeWhile (· = '0')).length '0' :=
    List.eq_replicate_of_mem fun c hc =>
      of_decide_eq_true (List.mem_rtakeWhile_imp (p := (· = '0')) hc)
  rw [← hzeros]
  exact List.rdropWhile_append_rtakeWhile.symm

/-- The digits of a number without the zeros at the end, which are moved into the exponent. -/
theorem leading_of_append_zeros {digits : List Char} {zeros n : Nat} (hn : 0 < n)
    (h : Nat.toDigits 10 n = digits ++ List.replicate zeros '0') :
    Leading digits ∧ n = digitsValue digits * 10 ^ zeros := by
  have hhead := head?_toDigits hn
  have hvalue := digitsValue_toDigits n
  rw [h, digitsValue_append, digitsValue_replicate_zero, List.length_replicate, Nat.add_zero]
    at hvalue
  refine ⟨⟨fun d hd => ?_, ?_⟩, hvalue.symm⟩
  · refine Nat.isDigit_of_mem_toDigits (b := 10) (n := n) (by decide) (by decide) ?_
    rw [h]
    exact List.mem_append_left _ hd
  · rw [h] at hhead
    cases digits with
    | nil =>
      -- Zeros alone begin with a zero.
      cases zeros with
      | zero => exact absurd h Nat.toDigits_ne_nil
      | succ zeros => exact absurd rfl hhead
    | cons d rest => exact ⟨d, rest, rfl, fun hd => hhead (by rw [hd]; rfl)⟩

/-- The shortest digits begin with no zero, and they read back. -/
theorem takes_shortestDigits (hb : b.Canonical) (hpos : 0 < b.mantissa) :
    Leading (shortestDigits b).1 ∧ b.Takes (digitsValue (shortestDigits b).1
      * 10 ^ ((shortestDigits b).2 - (shortestDigits b).1.length)) := by
  have htakes := takes_shortestFrom hb (pointOf_le hb hpos) (show 16 + 1 = 17 from rfl)
  have hfound := htakes.pos hpos
  rw [shortestDigits]
  generalize shortestFrom b (pointOf b) 16 1 = found at htakes hfound ⊢
  dsimp only
  have hdigits : 0 < found.digits := by
    rcases Nat.eq_zero_or_pos found.digits with hzero | hdigits
    · rw [Scaled.value, hzero, Nat.cast_zero, zero_mul] at hfound
      exact absurd hfound (lt_irrefl 0)
    · exact hdigits
  obtain ⟨zeros, hzeros⟩ := exists_zeros (digitChars found.digits)
  generalize ((digitChars found.digits).reverse.dropWhile (· = '0')).reverse = kept at hzeros ⊢
  obtain ⟨hleading, hvalue⟩ := leading_of_append_zeros hdigits hzeros
  refine ⟨hleading, ?_⟩
  have hplace : ((digitChars found.digits).length : ℤ) + found.exponent - kept.length
      = zeros + found.exponent := by
    rw [hzeros, List.length_append, List.length_replicate]
    push_cast
    ring
  rw [Scaled.value, hvalue] at htakes
  rw [hplace, zpow_add₀ (by norm_num), ← mul_assoc]
  exact_mod_cast htakes

end ImageImports.Decimal

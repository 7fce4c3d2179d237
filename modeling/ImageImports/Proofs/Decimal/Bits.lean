import ImageImports.Decimal.Binary
import Mathlib

/-!
# The bits of double-precision numbers

A double-precision number is 64 bits: a sign, an exponent and a fraction.  A finite number that is
taken apart is made again from the parts: its exponent, counted from the least there is, and its
mantissa add up to the bits of its magnitude, because the leading bit of a mantissa counts as one
more in the exponent.  Of the bits of what is no number there is one choice only.

## Main results

* `of_classify_finite`, `of_classify_infinite`, `of_classify_nan` — a number is made again from what
  it is taken apart into.
-/

namespace ImageImports.Decimal

open Float.Model (Format)
open Float.Model.UnpackedFloat (unpackExponent unpackMantissa)

theorem eq_withSign_of_toNat {x : Float} {negative : Bool} {magnitude : Nat}
    (h : x.toBits.toNat = (if negative then 1 <<< 63 else 0) + magnitude) :
    x = withSign negative magnitude := by
  rw [withSign, ← h, UInt64.ofNat_toNat, Float.ofBits_toBits]

/-- A number has a sign, an exponent and a fraction, which say what it is. -/
structure Parts (x : Float) (negative : Bool) (biased fraction : Nat) : Prop where
  biased_lt : biased < 2048
  fraction_lt : fraction < 2 ^ 52
  toBits : x.toBits.toNat = (if negative then 1 <<< 63 else 0) + (biased <<< 52 + fraction)
  classify_eq : classify x =
    if biased = 2047 then if fraction = 0 then .infinite negative else .nan
    else if biased = 0 then .finite ⟨negative, fraction, -1074⟩
    else .finite ⟨negative, (1 <<< 52) + fraction, Int.ofNat biased - 1075⟩

theorem exists_parts (x : Float) :
    ∃ negative biased fraction, Parts x negative biased fraction := by
  refine ⟨x.toBits.toNat >>> 63 = 1, (x.toBits.toNat >>> 52) % 2048, x.toBits.toNat % (1 <<< 52),
    Nat.mod_lt _ (by decide), Nat.mod_lt _ (by decide), ?_, rfl⟩
  have hlt : x.toBits.toNat < 2 ^ 64 := x.toBits.toNat_lt
  simp only [Nat.shiftRight_eq_div_pow, Nat.shiftLeft_eq, decide_eq_true_eq]
  split <;> omega

/-- What holds of every finite number: its mantissa is as long as it can be, unless its exponent is
the least there is. -/
structure Binary.Canonical (b : Binary) : Prop where
  mantissa_lt : b.mantissa < 2 ^ 53
  least : -1074 ≤ b.exponent
  most : b.exponent ≤ 971
  full : 2 ^ 52 ≤ b.mantissa ∨ b.exponent = -1074

/-- The bits of the magnitude of a finite number. -/
def Binary.bits (b : Binary) : Nat := (b.exponent + 1074).toNat <<< 52 + b.mantissa

theorem Binary.Canonical.bits_lt {b : Binary} (hb : b.Canonical) : b.bits < infinityBits := by
  obtain ⟨hmantissa, hleast, hmost, -⟩ := hb
  rw [Binary.bits, infinityBits, Nat.shiftLeft_eq, Nat.shiftLeft_eq]
  omega

theorem Binary.Canonical.bits_eq_zero {b : Binary} (hb : b.Canonical) (h : b.mantissa = 0) :
    b.bits = 0 := by
  obtain ⟨-, -, -, hfull⟩ := hb
  rw [Binary.bits, h, hfull.resolve_left (by omega)]
  rfl

/-- A finite number is made from its sign, its exponent and its mantissa. -/
theorem of_classify_finite {x : Float} {b : Binary} (h : classify x = .finite b) :
    b.Canonical ∧ x = withSign b.negative b.bits := by
  obtain ⟨negative, biased, fraction, hparts⟩ := exists_parts x
  have hbiased := hparts.biased_lt
  have hfraction := hparts.fraction_lt
  rw [hparts.classify_eq] at h
  split at h
  · split at h <;> cases h
  split at h
  · next hzero =>
    cases h
    refine ⟨⟨?_, Int.le_refl _, ?_, .inr rfl⟩, eq_withSign_of_toNat ?_⟩
    · dsimp only
      omega
    · dsimp only
      omega
    rw [hparts.toBits, hzero]
    rfl
  · cases h
    refine ⟨⟨?_, ?_, ?_, .inl ?_⟩, eq_withSign_of_toNat ?_⟩
    · simp only [Nat.shiftLeft_eq]
      omega
    · simp only [Int.ofNat_eq_natCast]
      omega
    · simp only [Int.ofNat_eq_natCast]
      omega
    · simp only [Nat.shiftLeft_eq]
      omega
    · rw [hparts.toBits]
      simp only [Binary.bits, Nat.shiftLeft_eq, Int.ofNat_eq_natCast]
      omega

theorem of_classify_infinite {x : Float} {negative : Bool} (h : classify x = .infinite negative) :
    x = withSign negative infinityBits := by
  obtain ⟨negative', biased, fraction, hparts⟩ := exists_parts x
  rw [hparts.classify_eq] at h
  split at h
  · next hinf =>
    split at h
    · next hzero =>
      cases h
      exact eq_withSign_of_toNat (by rw [hparts.toBits, hinf, hzero]; rfl)
    · cases h
  · split at h <;> cases h

theorem of_classify_nan {x : Float} (h : classify x = .nan) : x = nan := by
  obtain ⟨negative, biased, fraction, hparts⟩ := exists_parts x
  have hbits := hparts.toBits
  have hlt := hparts.fraction_lt
  rw [hparts.classify_eq] at h
  split at h
  · next hinf =>
    split at h
    · cases h
    · next hzero =>
      let b : BitVec Format.binary64.numBits := x.toModel.toBits.toBitVec
      have hall : unpackExponent b = -BitVec.ofNat Format.binary64.exponentBits 1 := by
        apply BitVec.eq_of_toNat_eq
        rw [unpackExponent, BitVec.toNat_cast, BitVec.extractLsb_toNat]
        show (x.toBits.toNat >>> 52) % 2048 = 2047
        simp only [Nat.shiftRight_eq_div_pow, Nat.shiftLeft_eq] at hbits ⊢
        split at hbits <;> omega
      have hsome :
          unpackMantissa b ≠ BitVec.ofNat Format.binary64.mantissaBitsWithoutImplicit 0 := by
        intro hnone
        have hnone := congrArg BitVec.toNat hnone
        rw [unpackMantissa, BitVec.toNat_cast, BitVec.extractLsb_toNat] at hnone
        have hnone : (x.toBits.toNat >>> 0) % 2 ^ 52 = 0 := hnone
        simp only [Nat.shiftRight_eq_div_pow, Nat.shiftLeft_eq] at hbits hnone
        split at hbits <;> omega
      have hcanonical := x.toModel.valid.eq_packedNaN hall hsome
      rw [← Float.ofBits_toBits x, nan]
      exact congrArg Float.ofBits (UInt64.toBitVec_inj.1 hcanonical)
  · split at h <;> cases h

end ImageImports.Decimal

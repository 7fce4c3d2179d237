import Mathlib
import ImageImports.Proofs.Import.Labels

/-!
# A thunk splits without loss

A thunk is split at a width into its top bit and what lies below it.  Width and thunk may be
any: the bits are those of two's complement, in which a negative integer has ones without end
in front.  The parts are computed by remainders, and a remainder is what a mask of ones keeps,
of negative integers too.  So nothing is lost: the parts make up the thunk again, as far as
its width reaches.

The limits lie outside the arithmetic.  The number that the top bit stands for has to be
built, which fails for the widest thunks; and an ordinal with more than `Decimal.maxDigits`
digits cannot be written, so that it has no label.  Neither is met in an image.

## Main results

* `land_two_pow_sub_one`, `land_two_pow` — what masks keep of an integer.
* `Entry.SplitOf.parts_eq_iff` — two thunks have the same parts exactly when they have the same
  bits up to the width.
* `Entry.ofBits_width` — the thunks of images are split.
* `Entry.ofBits_splits` — the parts of every thunk at every width, which widths are refused,
  and that parts and labels tell thunks and ordinals apart.
* `Entry.ofBits_widest_refused` — a width that is refused, and ordinals without a label.
-/

namespace ImageImports

/-! ## The bits of an integer -/

/-- The bit that a quotient ends in is the bit in two's complement. -/
theorem testBit_eq (n : Int) (k : Nat) : testBit n k = n.testBit k := by
  have hpos : (0 : Int) < (2 ^ k : Nat) := by exact_mod_cast Nat.two_pow_pos k
  rw [testBit, Nat.one_shiftLeft]
  cases n with
  | ofNat m =>
    have hquotient : (m : Int) / (2 ^ k : Nat) % 2 = (m / 2 ^ k % 2 : Nat) := by push_cast; rfl
    rw [Int.testBit, Nat.testBit_eq_decide_div_mod_eq, Int.ofNat_eq_natCast, hquotient]
    exact decide_eq_decide.2 (by omega)
  | negSucc m =>
    -- the quotient of a complement is the complement of the quotient
    have hquotient : Int.negSucc m / (2 ^ k : Nat) = -((m / 2 ^ k : Nat) + 1 : Int) :=
      Int.negSucc_ediv m hpos
    rw [Int.testBit, Nat.testBit_eq_decide_div_mod_eq, hquotient, ← decide_not]
    exact decide_eq_decide.2 (by omega)

/-- A mask of ones keeps the remainder. -/
theorem land_two_pow_sub_one (n : Int) (k : Nat) : Int.land n (2 ^ k - 1) = n % 2 ^ k := by
  have hmask : (2 ^ k - 1 : Int) = (2 ^ k - 1 : Nat) := by
    rw [Nat.cast_sub Nat.one_le_two_pow]
    push_cast
    rfl
  rw [hmask]
  cases n with
  | ofNat m =>
    have hkept : m &&& (2 ^ k - 1) = m % 2 ^ k := Nat.and_two_pow_sub_one_eq_mod m k
    exact_mod_cast congrArg Int.ofNat hkept
  | negSucc m =>
    -- what is kept are the zeros of the number whose complement this is
    have hkept : Nat.ldiff (2 ^ k - 1) m = 2 ^ k - (m % 2 ^ k + 1) := by
      refine Nat.eq_of_testBit_eq fun i => ?_
      rw [Nat.testBit_ldiff, Nat.testBit_two_pow_sub_one,
        Nat.testBit_two_pow_sub_succ (Nat.mod_lt m (Nat.two_pow_pos k)), Nat.testBit_mod_two_pow]
      cases decide (i < k) <;> rfl
    have hlt : m % 2 ^ k + 1 ≤ 2 ^ k := Nat.mod_lt m (Nat.two_pow_pos k)
    rw [Int.negSucc_emod m (by positivity)]
    show ((Nat.ldiff (2 ^ k - 1) m : Nat) : Int) = _
    rw [hkept, Nat.cast_sub hlt]
    push_cast
    ring

/-- A mask of a single one keeps that bit. -/
theorem land_two_pow (n : Int) (k : Nat) :
    Int.land n (2 ^ k) = if n.testBit k then 2 ^ k else 0 := by
  have hmask : (2 ^ k : Int) = (2 ^ k : Nat) := by push_cast; rfl
  rw [hmask]
  cases n with
  | ofNat m =>
    have hkept : m &&& 2 ^ k = if m.testBit k then 2 ^ k else 0 := by
      rw [Nat.and_two_pow]
      cases m.testBit k <;> simp
    show ((m &&& 2 ^ k : Nat) : Int) = if m.testBit k then ((2 ^ k : Nat) : Int) else 0
    rw [hkept]
    split <;> rfl
  | negSucc m =>
    have hkept : Nat.ldiff (2 ^ k) m = if m.testBit k then 0 else 2 ^ k := by
      refine Nat.eq_of_testBit_eq fun i => ?_
      rw [Nat.testBit_ldiff, Nat.testBit_two_pow]
      by_cases hi : k = i
      · subst hi
        cases m.testBit k <;> simp
      · cases m.testBit k <;> simp [hi]
    show ((Nat.ldiff (2 ^ k) m : Nat) : Int) = if (!m.testBit k) then ((2 ^ k : Nat) : Int) else 0
    rw [hkept]
    cases m.testBit k <;> rfl

/-- The remainder that is one bit longer has that bit in front. -/
theorem emod_two_pow_succ (n : Int) (k : Nat) :
    n % 2 ^ (k + 1) = (testBit n k).toInt * 2 ^ k + n % 2 ^ k := by
  have hpos : (0 : Int) < 2 ^ k := by positivity
  have hlow := Int.emod_nonneg n hpos.ne'
  have hlt := Int.emod_lt_of_pos n hpos
  have htop : (testBit n k).toInt = n / 2 ^ k % 2 := by
    rw [testBit, Nat.one_shiftLeft, Nat.cast_pow, Nat.cast_ofNat]
    rcases Int.emod_two_eq (n / 2 ^ k) with h | h <;> rw [h] <;> rfl
  have hrest : n = n / 2 ^ k % 2 * 2 ^ k + n % 2 ^ k + 2 ^ (k + 1) * (n / 2 ^ k / 2) := by
    have h := Int.mul_ediv_add_emod n (2 ^ k)
    have h2 := Int.mul_ediv_add_emod (n / 2 ^ k) 2
    calc n = 2 ^ k * (2 * (n / 2 ^ k / 2) + n / 2 ^ k % 2) + n % 2 ^ k := by rw [h2, h]
      _ = _ := by ring
  rw [htop]
  conv_lhs => rw [hrest, Int.add_mul_emod_self_left]
  refine Int.emod_eq_of_lt ?_ ?_
  · rcases Int.emod_two_eq (n / 2 ^ k) with h | h <;> rw [h] <;> omega
  · rw [pow_succ]
    rcases Int.emod_two_eq (n / 2 ^ k) with h | h <;> rw [h] <;> omega

/-- Of a remainder the lower bits are the lower bits of the number, as far as both reach. -/
theorem emod_two_pow_emod_two_pow (n : Int) (j k : Nat) :
    n % 2 ^ k % 2 ^ j = n % 2 ^ min j k := by
  rcases Nat.le_total j k with hle | hle
  · rw [Nat.min_eq_left hle, Int.emod_emod_of_dvd n (pow_dvd_pow 2 hle)]
  · have hlt : n % 2 ^ k < 2 ^ j :=
      (Int.emod_lt_of_pos n (by positivity)).trans_le (pow_le_pow_right₀ (by decide) hle)
    rw [Nat.min_eq_right hle, Int.emod_eq_of_lt (Int.emod_nonneg n (by positivity)) hlt]

namespace Import.Entry

variable {e e' : Entry} {raw raw' : Int} {bits : Nat}

/-! ## The parts of a thunk -/

/-- An entry holds the parts of a thunk of `bits` bits, and no hint or name yet.  Each part is
told as bits or a remainder and as what a mask keeps. -/
structure SplitOf (e : Entry) (raw : Int) (bits : Nat) : Prop where
  stored : e.raw = raw
  isOrdinal : e.isOrdinal = raw.testBit (bits - 1)
  isOrdinal_mask : e.isOrdinal = true ↔ Int.land raw (2 ^ (bits - 1)) ≠ 0
  payload : e.payload = raw % 2 ^ (bits - 1)
  payload_mask : e.payload = Int.land raw (2 ^ (bits - 1) - 1)
  joined : e.isOrdinal.toInt * 2 ^ (bits - 1) + e.payload = raw % 2 ^ bits
  hintNameRva : e.hintNameRva = raw % 2 ^ min 31 (bits - 1)
  hintNameRva_mask : e.hintNameRva = Int.land e.payload 0x7fffffff
  unresolved : e.hint = none ∧ e.name = ""

/-- The entry that a thunk is split into holds its parts. -/
theorem splitOf_ofThunk (raw : Int) (width : Nat) :
    (ofThunk raw width).SplitOf raw (width + 1) := by
  have hpayload := Context.payload_ofThunk raw width
  have hbit : (ofThunk raw width).isOrdinal = raw.testBit width := testBit_eq raw width
  have hlow : (0x80000000 : Int) = 2 ^ 31 := by decide
  have hones : (0x7fffffff : Int) = 2 ^ 31 - 1 := by decide
  exact
    { stored := rfl
      isOrdinal := hbit
      isOrdinal_mask := by
        rw [Nat.add_sub_cancel, hbit, land_two_pow]
        cases raw.testBit width <;> simp
      payload := hpayload
      payload_mask := by rw [Nat.add_sub_cancel, land_two_pow_sub_one, hpayload]
      joined := by
        rw [Nat.add_sub_cancel, emod_two_pow_succ, hpayload]
        rfl
      hintNameRva := by
        rw [Nat.add_sub_cancel, Entry.hintNameRva, hpayload, hlow, emod_two_pow_emod_two_pow]
      hintNameRva_mask := by rw [Entry.hintNameRva, hones, land_two_pow_sub_one, hlow]
      unresolved := ⟨rfl, rfl⟩ }

/-- The parts are those of another thunk exactly when the two have the same bits. -/
theorem SplitOf.parts_eq_iff (h : e.SplitOf raw bits) (h' : e'.SplitOf raw' bits) :
    (e.isOrdinal = e'.isOrdinal ∧ e.payload = e'.payload)
      ↔ raw % 2 ^ bits = raw' % 2 ^ bits := by
  constructor
  · rintro ⟨hordinal, hpayload⟩
    rw [← h.joined, ← h'.joined, hordinal, hpayload]
  · intro hsame
    have hdvd : (2 : Int) ^ (bits - 1) ∣ 2 ^ bits := pow_dvd_pow 2 (Nat.sub_le bits 1)
    have hpayload : e.payload = e'.payload := by
      rw [h.payload, h'.payload, ← Int.emod_emod_of_dvd raw hdvd, hsame,
        Int.emod_emod_of_dvd raw' hdvd]
    have htop : e.isOrdinal.toInt = e'.isOrdinal.toInt := by
      have hjoined := h.joined.trans (hsame.trans h'.joined.symm)
      rw [hpayload] at hjoined
      exact mul_right_cancel₀ (by positivity) (add_right_cancel hjoined)
    refine ⟨?_, hpayload⟩
    cases hordinal : e.isOrdinal <;> cases hordinal' : e'.isOrdinal <;>
      simp [hordinal, hordinal'] at htop ⊢

/-- A thunk that its width holds is determined by its parts. -/
theorem SplitOf.parts_eq_iff_eq (h : e.SplitOf raw bits) (h' : e'.SplitOf raw' bits)
    (h0 : 0 ≤ raw) (hlt : raw < 2 ^ bits) (h0' : 0 ≤ raw') (hlt' : raw' < 2 ^ bits) :
    (e.isOrdinal = e'.isOrdinal ∧ e.payload = e'.payload) ↔ raw = raw' := by
  rw [h.parts_eq_iff h', Int.emod_eq_of_lt h0 hlt, Int.emod_eq_of_lt h0' hlt']

/-! ## Which widths can be split -/

/-- A thunk is split at every width whose top bit memory holds.  A top bit beyond that has too
many digits to store, and at last too many to count. -/
theorem ofBits_eq (raw : Int) {bits : Nat} (h : 1 ≤ bits) :
    ofBits raw bits =
      if (bits : Int) - 1 ≤ maxStoredBits then .ok (ofThunk raw (bits - 1))
      else .error (if maxCountedBits < (bits : Int) - 1 then .tooMany else .noMemory) := by
  have hle : maxStoredBits ≤ maxCountedBits := by decide
  have hwidth : ((bits : Int) - 1).toNat = bits - 1 := by omega
  rw [ofBits, if_neg (by omega), hwidth]
  by_cases hstored : (bits : Int) - 1 ≤ maxStoredBits
  · rw [if_neg (by omega), if_neg (by omega), if_pos hstored]
  · rw [if_neg hstored, apply_ite Except.error, if_pos (Int.not_le.1 hstored)]

/-- The thunks of images are split at both of their widths. -/
theorem ofBits_width (raw : Int) (width : Width) :
    ofBits raw width.bits = .ok (ofThunk raw (width.bits - 1)) := by
  cases width <;> exact (ofBits_eq raw (by decide)).trans (if_pos (by decide))

/-! ## What ordinals are listed as -/

/-- The text of an ordinal tells it. -/
theorem label_eq_iff (h : e.isOrdinal = true) (h' : e'.isOrdinal = true) :
    e.label = e'.label ↔ e.payload = e'.payload := by
  have hlabel : ∀ {e : Entry}, e.isOrdinal = true → e.label = "#" ++ e.payload.repr := by
    intro e he
    rw [label, if_pos he]
    rfl
  rw [hlabel h, hlabel h', String.append_right_inj, Int.repr_inj]

/-! ## The split -/

/-- **A thunk splits without loss.**  At every width and for every integer the parts are the
bits of two's complement, and a thunk of that width is determined by them.  They are the answer
at every width whose top bit can be built; the other widths are refused.  Two ordinals have the
same label exactly when they are equal, and a label can be had of those that are short enough
to be written. -/
theorem ofBits_splits (bits : Nat) (hbits : 1 ≤ bits) :
    (∀ raw, (ofThunk raw (bits - 1)).SplitOf raw bits)
      ∧ (∀ raw, ofBits raw bits =
        if (bits : Int) - 1 ≤ maxStoredBits then .ok (ofThunk raw (bits - 1))
        else .error (if maxCountedBits < (bits : Int) - 1 then .tooMany else .noMemory))
      ∧ (∀ raw raw' : Int, 0 ≤ raw → raw < 2 ^ bits → 0 ≤ raw' → raw' < 2 ^ bits →
        ((ofThunk raw (bits - 1)).isOrdinal = (ofThunk raw' (bits - 1)).isOrdinal
          ∧ (ofThunk raw (bits - 1)).payload = (ofThunk raw' (bits - 1)).payload ↔ raw = raw'))
      ∧ (∀ e e' : Entry, e.isOrdinal = true → e'.isOrdinal = true →
        (e.label = e'.label ↔ e.payload = e'.payload))
      ∧ ∀ e : Entry, e.isOrdinal = true → e.label? =
        if e.payload.natAbs < 10 ^ Decimal.maxDigits then some e.label else none := by
  have hsplit (raw : Int) : (ofThunk raw (bits - 1)).SplitOf raw bits := by
    have h := splitOf_ofThunk raw (bits - 1)
    rwa [Nat.sub_add_cancel hbits] at h
  refine ⟨hsplit, fun raw => ofBits_eq raw hbits, ?_, fun e e' => label_eq_iff,
    fun e => label?_of_isOrdinal⟩
  intro raw raw' h0 hlt h0' hlt'
  exact (hsplit raw).parts_eq_iff_eq (hsplit raw') h0 hlt h0' hlt'

/-- At 32 bits, -1 is the greatest ordinal; an address and the ordinal of the same number
differ in their parts; two ordinals differ in their labels, which both can be written. -/
theorem ofBits_splits_narrow :
    1 ≤ 32 ∧ (ofThunk (-1) 31).SplitOf (-1) 32 ∧ ofBits (-1) 32 = .ok (ofThunk (-1) 31)
      ∧ ¬ ((ofThunk 0x80000007 31).isOrdinal = (ofThunk 7 31).isOrdinal
        ∧ (ofThunk 0x80000007 31).payload = (ofThunk 7 31).payload)
      ∧ (ofThunk 0x80000007 31).label ≠ (ofThunk 0x80000008 31).label
      ∧ (ofThunk 0x80000007 31).label? = some (ofThunk 0x80000007 31).label := by
  obtain ⟨hsplit, hanswer, hdetermined, hlabel, hlisted⟩ := ofBits_splits 32 (by decide)
  refine ⟨by decide, hsplit (-1), (hanswer (-1)).trans (if_pos (by decide)), ?_, ?_, ?_⟩
  · have hparts := hdetermined 0x80000007 7 (by decide) (by decide) (by decide) (by decide)
    exact fun hsame => absurd (hparts.1 hsame) (by decide)
  · have hordinals :=
      hlabel (ofThunk 0x80000007 31) (ofThunk 0x80000008 31) (by decide) (by decide)
    exact fun hsame => absurd (hordinals.1 hsame) (by decide)
  · exact (hlisted (ofThunk 0x80000007 31) (by decide)).trans (if_pos (by decide +kernel))

/-- A width is refused when the number of its top bit has too many digits to count; and two
ordinals with too many digits to write have no labels that tell them apart. -/
theorem ofBits_widest_refused :
    (1 ≤ 2 ^ 70 ∧ ofBits 7 (2 ^ 70) = .error .tooMany
        ∧ ¬ ∃ e, ofBits 7 (2 ^ 70) = .ok e ∧ e.SplitOf 7 (2 ^ 70))
      ∧ ∃ e e', ofBits (-1) 20000 = .ok e ∧ ofBits (-2) 20000 = .ok e'
        ∧ e.isOrdinal = true ∧ e'.isOrdinal = true ∧ e.label? = none ∧ e'.label? = none
        ∧ ¬ (e.label? = e'.label? ↔ e.payload = e'.payload) := by
  have hrefused : ofBits 7 (2 ^ 70) = .error .tooMany := by decide
  have hne : (ofThunk (-1) 19999).payload ≠ (ofThunk (-2) 19999).payload := by decide
  have hnone : (ofThunk (-1) 19999).label? = none := by decide +kernel
  have hnone' : (ofThunk (-2) 19999).label? = none := by decide +kernel
  refine ⟨⟨by decide, hrefused, ?_⟩, ofThunk (-1) 19999, ofThunk (-2) 19999, rfl, rfl,
    rfl, rfl, hnone, hnone', ?_⟩
  · rintro ⟨e, hok, -⟩
    cases hrefused.symm.trans hok
  · exact fun hlabels => hne (hlabels.1 (hnone.trans hnone'.symm))

end Import.Entry

end ImageImports

import ImageImports.Json.Printer
import ImageImports.Json.Reader
import ImageImports.Proofs.Decimal.Shortest

/-!
# Numbers are read back

A number ends where something stands that does not carry it on, so what is behind a written
number is left as it is.  A whole number of any size is read back from its digits.  A
double-precision number is read back from its shortest decimal, wherever that puts the point:
zeros behind the digits, zeros in front of them, or an exponent.

## Main results

* `number?_int` — a whole number is read from the front of a text.
* `number?_realText` — a double-precision number is read from the front of a text.
-/

namespace ImageImports.Json

/-! ## What stands behind a number -/

/-- What does not carry a number on. -/
def EndsNumber (rest : List Char) : Prop :=
  ∀ c ∈ rest.head?, c.isDigit = false ∧ c ≠ '.' ∧ c ≠ 'e' ∧ c ≠ 'E'

theorem digits?_append {digits rest : List Char} (hne : digits ≠ [])
    (hdigits : ∀ d ∈ digits, d.isDigit = true) (hrest : ∀ c ∈ rest.head?, c.isDigit = false) :
    digits? (digits ++ rest) = some (digits, rest) := by
  have htake : rest.takeWhile Char.isDigit = [] := by
    cases rest with
    | nil => rfl
    | cons c rest => rw [List.takeWhile_cons_of_neg (ne_true_of_eq_false (hrest c rfl))]
  have hdrop : rest.dropWhile Char.isDigit = rest := by
    cases rest with
    | nil => rfl
    | cons c rest => rw [List.dropWhile_cons_of_neg (ne_true_of_eq_false (hrest c rfl))]
  rw [digits?]
  simp only [List.takeWhile_append_of_pos hdigits, List.dropWhile_append_of_pos hdigits, htake,
    hdrop, List.append_nil, List.isEmpty_iff, if_neg hne]

theorem EndsNumber.not_isDigit {rest : List Char} (h : EndsNumber rest) :
    ∀ c ∈ rest.head?, c.isDigit = false := fun c hc => (h c hc).1

theorem exponent?_endsNumber {rest : List Char} (h : EndsNumber rest) :
    exponent? rest = some (none, rest) := by
  unfold exponent?
  split
  · exact absurd rfl (h 'e' rfl).2.2.1
  · exact absurd rfl (h 'E' rfl).2.2.2
  · rfl

/-! ## Signs -/

/-- Behind its sign a number begins with a digit. -/
theorem exists_digit_of_magnitude? {negative : Bool} {s rest : List Char} {v : Json}
    (h : magnitude? negative s = some (v, rest)) :
    ∃ d behind, s = d :: behind ∧ d.isDigit = true := by
  have hnone (hdigits : s.takeWhile Char.isDigit = []) : magnitude? negative s = none := by
    rw [magnitude?, digits?, hdigits]
    rfl
  cases s with
  | nil => rw [hnone rfl] at h; cases h
  | cons d behind =>
    refine ⟨d, behind, rfl, ?_⟩
    by_contra hd
    rw [hnone (List.takeWhile_cons_of_neg hd)] at h
    cases h

/-- A sign is read in front of a number. -/
theorem number?_of_magnitude? {negative : Bool} {s rest : List Char} {v : Json}
    (h : magnitude? negative s = some (v, rest)) :
    number? ((if negative then ['-'] else []) ++ s) = some (v, rest) := by
  obtain ⟨d, behind, rfl, hd⟩ := exists_digit_of_magnitude? h
  have hother {c : Char} (hc : c.isDigit = false) : c ≠ d := by
    rintro rfl
    exact Bool.false_ne_true (hc.symm.trans hd)
  have hword : wordAt? ((if negative then ['-'] else []) ++ d :: behind) = none := by
    have hN := hother (c := 'N') rfl
    have hI := hother (c := 'I') rfl
    have hminus := hother (c := '-') rfl
    cases negative <;> simp [wordAt?, wordNumbers, hN, hI, hminus]
  rw [← h]
  unfold number?
  rw [hword]
  cases negative with
  | true => rfl
  | false =>
    dsimp only
    split
    · next heq => exact absurd (List.cons.inj heq).1.symm (hother rfl)
    · rfl

/-! ## Whole numbers -/

/-- The digits of a number are read with its sign, where no point and no exponent follows. -/
theorem magnitude?_toDigits (m : Nat) (negative : Bool) {rest : List Char} (h : EndsNumber rest) :
    magnitude? negative (Nat.toDigits 10 m ++ rest) =
      some (.int (if negative then -m else m), rest) := by
  have hisDigit : ∀ d ∈ Nat.toDigits 10 m, d.isDigit = true := fun d hd =>
    Nat.isDigit_of_mem_toDigits (by decide) (by decide) hd
  have hdigits := digits?_append Nat.toDigits_ne_nil hisDigit h.not_isDigit
  have hzero : ¬ ((Nat.toDigits 10 m).head? = some '0' ∧ (Nat.toDigits 10 m).length > 1) := by
    rintro ⟨hhead, hlength⟩
    rcases Nat.eq_zero_or_pos m with rfl | hm
    · exact absurd hlength (by decide)
    · exact Decimal.head?_toDigits hm hhead
  unfold magnitude?
  simp only [hdigits, Option.bind_eq_bind, Option.bind_some, if_neg hzero,
    Decimal.digitsValue_toDigits]
  split
  · exact absurd rfl (h '.' rfl).2.1
  · rw [exponent?_endsNumber h]
    rfl

/-- Whole numbers are read back. -/
theorem number?_int (n : Int) {rest : List Char} (h : EndsNumber rest) :
    number? ((toString n).toList ++ rest) = some (.int n, rest) := by
  rw [Int.toString_eq_repr, Int.repr_eq_if]
  split
  · next hn =>
    have hread := number?_of_magnitude? (magnitude?_toDigits n.toNat false h)
    rw [if_neg Bool.false_ne_true, if_neg Bool.false_ne_true, Int.toNat_of_nonneg hn] at hread
    rw [Nat.toList_repr]
    exact hread
  · next hn =>
    have hread := number?_of_magnitude? (magnitude?_toDigits (-n).toNat true h)
    rw [if_pos rfl, if_pos rfl, Int.toNat_of_nonneg (by omega), Int.neg_neg] at hread
    rw [String.toList_append, Nat.toList_repr, List.append_assoc]
    exact hread

/-! ## Exponents -/

/-- An exponent is written with its sign and with a zero in front of a single digit. -/
theorem toList_exponentText (e : Int) : ∃ zeros, (Decimal.exponentText e).toList =
    (if e < 0 then '-' else '+') :: (List.replicate zeros '0' ++ Nat.toDigits 10 e.natAbs) := by
  have hsign : (if e < 0 then "-" else "+").toList = [if e < 0 then '-' else '+'] := by
    split <;> rfl
  rw [Decimal.exponentText, Decimal.digitChars, String.toList_append, hsign]
  generalize Nat.toDigits 10 e.natAbs = digits
  by_cases hshort : (String.ofList digits).length < 2
  · refine ⟨1, ?_⟩
    rw [if_pos hshort]
    simp only [String.toList_append, String.toList_ofList]
    rfl
  · refine ⟨0, ?_⟩
    rw [if_neg hshort, String.toList_ofList]
    rfl

/-- An exponent is read back. -/
theorem exponent?_exponentText (e : Int) {rest : List Char}
    (hrest : ∀ c ∈ rest.head?, c.isDigit = false) :
    exponent? ('e' :: ((Decimal.exponentText e).toList ++ rest)) = some (some e, rest) := by
  obtain ⟨zeros, htext⟩ := toList_exponentText e
  have hdigits : ∀ d ∈ List.replicate zeros '0' ++ Nat.toDigits 10 e.natAbs, d.isDigit = true := by
    intro d hd
    rcases List.mem_append.1 hd with hzero | hdigit
    · rw [List.eq_of_mem_replicate hzero]
      rfl
    · exact Nat.isDigit_of_mem_toDigits (by decide) (by decide) hdigit
  have hread := digits?_append (List.append_ne_nil_of_right_ne_nil _ Nat.toDigits_ne_nil)
    hdigits hrest
  have hvalue : Decimal.digitsValue (List.replicate zeros '0' ++ Nat.toDigits 10 e.natAbs)
      = e.natAbs := by
    rw [Decimal.digitsValue_append, Decimal.digitsValue_replicate_zero,
      Decimal.digitsValue_toDigits, Nat.zero_mul, Nat.zero_add]
  rw [htext]
  by_cases hnegative : e < 0
  · rw [if_pos hnegative]
    simp only [exponent?, List.cons_append, hread, Option.map_some, hvalue, if_true]
    congr 3
    omega
  · rw [if_neg hnegative]
    simp only [exponent?, List.cons_append, hread, Option.map_some, hvalue, if_false,
      Bool.false_eq_true]
    congr 3
    omega

/-! ## Fractions -/

section

variable (negative : Bool) (whole fraction : List Char) {tail rest : List Char}
  {exponent : Option Int}
  (hwhole : ∀ d ∈ whole, d.isDigit = true) (hne : whole ≠ [])
  (hzero : whole.head? = some '0' → whole.length = 1)
  (hexponent : exponent? tail = some (exponent, rest))

include hwhole hne hzero hexponent

/-- A number with a fraction is read, and with an exponent if one follows. -/
theorem magnitude?_fraction (hfraction : ∀ d ∈ fraction, d.isDigit = true) (hsome : fraction ≠ [])
    (htail : ∀ c ∈ tail.head?, c.isDigit = false) :
    magnitude? negative (whole ++ '.' :: (fraction ++ tail)) =
      some (.real (Decimal.realOf negative (Decimal.digitsValue (whole ++ fraction))
        (exponent.getD 0 - fraction.length)), rest) := by
  have hleft : digits? (whole ++ '.' :: (fraction ++ tail)) =
      some (whole, '.' :: (fraction ++ tail)) :=
    digits?_append hne hwhole (by rintro c ⟨⟩; rfl)
  have hright := digits?_append hsome hfraction htail
  have hnot : ¬ (whole.head? = some '0' ∧ whole.length > 1) := fun h => by
    have := hzero h.1
    omega
  unfold magnitude?
  simp only [hleft, hright, hexponent, Option.bind_eq_bind, Option.bind_some, if_neg hnot,
    Option.map_some]
  rfl

/-- A number with an exponent alone is read. -/
theorem magnitude?_exponent {e : Int} (he : exponent = some e)
    (htail : ∀ c ∈ tail.head?, c.isDigit = false ∧ c ≠ '.') :
    magnitude? negative (whole ++ tail) =
      some (.real (Decimal.realOf negative (Decimal.digitsValue whole) e), rest) := by
  have hleft : digits? (whole ++ tail) = some (whole, tail) :=
    digits?_append hne hwhole fun c hc => (htail c hc).1
  have hnot : ¬ (whole.head? = some '0' ∧ whole.length > 1) := fun h => by
    have := hzero h.1
    omega
  subst he
  unfold magnitude?
  simp only [hleft, Option.bind_eq_bind, Option.bind_some, if_neg hnot]
  split
  · exact absurd rfl (htail '.' rfl).2
  · simp [hexponent]

end

/-! ## Double-precision numbers -/

section

variable (negative : Bool) {digits rest : List Char} (h : Decimal.Leading digits) (point : Int)
  (hrest : EndsNumber rest)

theorem isDigit_of_mem_zeros {n : Nat} : ∀ d ∈ List.replicate n '0', d.isDigit = true := by
  intro d hd
  rw [List.eq_of_mem_replicate hd]
  rfl

include h hrest

/-- A number below one is read: a zero, the point, further zeros and the digits. -/
theorem magnitude?_below (hpoint : point ≤ 0) :
    magnitude? negative (['0', '.'] ++ (List.replicate (-point).toNat '0' ++ digits) ++ rest) =
      some (.real (Decimal.realOf negative (Decimal.digitsValue digits)
        (point - digits.length)), rest) := by
  have hread := magnitude?_fraction negative ['0'] _
    (List.forall_mem_singleton.2 rfl) (List.cons_ne_nil _ _) (fun _ => rfl)
    (exponent?_endsNumber hrest) (List.forall_mem_append.2 ⟨isDigit_of_mem_zeros, h.isDigit⟩)
    (List.append_ne_nil_of_right_ne_nil (List.replicate (-point).toNat '0') h.ne_nil)
    hrest.not_isDigit
  have hvalue : Decimal.digitsValue (['0'] ++ (List.replicate (-point).toNat '0' ++ digits)) =
      Decimal.digitsValue digits := by
    rw [← List.append_assoc, Decimal.digitsValue_append]
    show Decimal.digitsValue (List.replicate ((-point).toNat + 1) '0') * _ + _ = _
    rw [Decimal.digitsValue_replicate_zero, Nat.zero_mul, Nat.zero_add]
  refine hread.trans ?_
  rw [hvalue, List.length_append, List.length_replicate]
  congr 4
  rw [Option.getD_none]
  omega

/-- A whole number is read: the digits, zeros, the point and a zero. -/
theorem magnitude?_above (hpoint : digits.length ≤ point) :
    magnitude? negative
        (digits ++ List.replicate (point - digits.length).toNat '0' ++ ['.', '0'] ++ rest) =
      some (.real (Decimal.realOf negative
        (Decimal.digitsValue digits * 10 ^ ((point - digits.length).toNat + 1)) (-1)), rest) := by
  have hread := magnitude?_fraction negative
    (digits ++ List.replicate (point - digits.length).toNat '0') ['0']
    (List.forall_mem_append.2 ⟨h.isDigit, isDigit_of_mem_zeros⟩)
    (List.append_ne_nil_of_left_ne_nil h.ne_nil _) ?_ (exponent?_endsNumber hrest)
    (List.forall_mem_singleton.2 rfl) (List.cons_ne_nil _ _) hrest.not_isDigit
  · have hvalue : Decimal.digitsValue
        (digits ++ List.replicate (point - digits.length).toNat '0' ++ ['0']) =
        Decimal.digitsValue digits * 10 ^ ((point - digits.length).toNat + 1) := by
      rw [List.append_assoc, ← List.replicate_succ', Decimal.digitsValue_append,
        Decimal.digitsValue_replicate_zero, List.length_replicate, Nat.add_zero]
    rw [List.append_assoc]
    refine hread.trans ?_
    rw [hvalue]
    rfl
  · obtain ⟨d, more, rfl, hd⟩ := h.head
    exact fun hhead => absurd (Option.some.inj hhead) hd

/-- A number with digits on both sides of the point is read. -/
theorem magnitude?_across (hpos : 0 < point) (hpoint : point < digits.length) :
    magnitude? negative
        (digits.take point.toNat ++ '.' :: digits.drop point.toNat ++ rest) =
      some (.real (Decimal.realOf negative (Decimal.digitsValue digits)
        (point - digits.length)), rest) := by
  obtain ⟨d, more, hcons, hd⟩ := h.head
  have htake : digits.take point.toNat = d :: more.take (point.toNat - 1) := by
    rw [hcons, List.take_cons (by omega)]
  have hread := magnitude?_fraction negative (digits.take point.toNat) (digits.drop point.toNat)
    (fun c hc => h.isDigit c (List.mem_of_mem_take hc))
    (by rw [htake]; exact List.cons_ne_nil _ _)
    (fun hhead => absurd (Option.some.inj (by rwa [htake] at hhead)) hd)
    (exponent?_endsNumber hrest) (fun c hc => h.isDigit c (List.mem_of_mem_drop hc))
    (List.ne_nil_of_length_pos (by rw [List.length_drop]; omega)) hrest.not_isDigit
  rw [List.append_assoc]
  refine hread.trans ?_
  rw [List.take_append_drop, List.length_drop]
  congr 4
  rw [Option.getD_none]
  omega

/-- A number in scientific notation is read: a digit, the others behind the point if there are
any, and the exponent. -/
theorem magnitude?_scientific :
    magnitude? negative (Decimal.significand digits ++ ['e']
        ++ (Decimal.exponentText (point - 1)).toList ++ rest) =
      some (.real (Decimal.realOf negative (Decimal.digitsValue digits)
        (point - digits.length)), rest) := by
  have hexponent := exponent?_exponentText (point - 1) hrest.not_isDigit
  obtain ⟨d, more, rfl, -⟩ := h.head
  have hdigit : ∀ c ∈ [d], c.isDigit = true :=
    List.forall_mem_singleton.2 (h.isDigit d List.mem_cons_self)
  rw [List.append_assoc, List.append_assoc]
  cases more with
  | nil =>
    have hread := magnitude?_exponent negative [d] hdigit (List.cons_ne_nil _ _) (fun _ => rfl)
      hexponent rfl (by rintro c ⟨⟩; decide)
    exact hread
  | cons next more =>
    have hread := magnitude?_fraction negative [d] (next :: more) hdigit
      (List.cons_ne_nil _ _) (fun _ => rfl) hexponent
      (fun c hc => h.isDigit c (List.mem_cons_of_mem d hc)) (List.cons_ne_nil _ _)
      (by rintro c ⟨⟩; decide)
    refine hread.trans ?_
    rw [List.singleton_append]
    congr 4
    simp only [Option.getD_some, List.length_cons]
    omega

/-- A decimal is read back from where its point was put: its digits, with the zeros that were
written behind them, at the place that they stand at. -/
theorem magnitude?_layOut :
    ∃ zeros : Nat, magnitude? negative ((Decimal.layOut digits point).toList ++ rest) =
      some (.real (Decimal.realOf negative (Decimal.digitsValue digits * 10 ^ zeros)
        (point - digits.length - zeros)), rest) := by
  have hnone : Decimal.digitsValue digits * 10 ^ 0 = Decimal.digitsValue digits := by
    rw [Nat.pow_zero, Nat.mul_one]
  have hplace : point - digits.length - (0 : Nat) = point - digits.length := by omega
  unfold Decimal.layOut
  dsimp only
  split
  · split
    · next _ hbelow =>
      refine ⟨0, ?_⟩
      simp only [hnone, hplace, String.toList_append, String.toList_ofList]
      exact magnitude?_below negative h point hrest hbelow
    split
    · next _ _ habove =>
      refine ⟨(point - digits.length).toNat + 1, ?_⟩
      simp only [String.toList_append, String.toList_ofList]
      refine (magnitude?_above negative h point hrest habove).trans ?_
      congr 4
      omega
    · next _ hpos hacross =>
      refine ⟨0, ?_⟩
      rw [hnone, hplace, String.toList_ofList]
      exact magnitude?_across negative h point hrest (by omega) (by omega)
  · refine ⟨0, ?_⟩
    simp only [hnone, hplace, String.toList_append, String.toList_ofList]
    exact magnitude?_scientific negative h point hrest

end

/-- **A number is read back from its text**, whatever its size, and so are the three that are
spelled as words. -/
theorem number?_realText (x : Float) {rest : List Char} (hrest : EndsNumber rest) :
    number? ((realText x).toList ++ rest) = some (.real x, rest) := by
  rw [realText]
  cases hclass : Decimal.classify x with
  | nan =>
    rw [Decimal.of_classify_nan hclass]
    rfl
  | infinite negative =>
    rw [Decimal.of_classify_infinite hclass]
    cases negative <;> rfl
  | finite b =>
    obtain ⟨hb, hx⟩ := Decimal.of_classify_finite hclass
    rw [hx]
    show number? (b.text.toList ++ rest) = _
    have hsign : (if b.negative then "-" else "").toList = if b.negative then ['-'] else [] := by
      split <;> rfl
    rw [Decimal.Binary.text, String.toList_append, hsign, List.append_assoc]
    by_cases hzero : b.mantissa = 0
    · rw [if_pos hzero, hb.bits_eq_zero hzero]
      exact number?_of_magnitude? (magnitude?_fraction b.negative ['0'] ['0']
        (List.forall_mem_singleton.2 rfl) (List.cons_ne_nil _ _) (fun _ => rfl)
        (exponent?_endsNumber hrest) (List.forall_mem_singleton.2 rfl) (List.cons_ne_nil _ _)
        hrest.not_isDigit)
    · have hpos := Nat.pos_of_ne_zero hzero
      obtain ⟨hleading, htakes⟩ := Decimal.takes_shortestDigits hb hpos
      rw [if_neg hzero]
      generalize Decimal.shortestDigits b = shortest at hleading htakes
      obtain ⟨digits, point⟩ := shortest
      obtain ⟨zeros, hread⟩ := magnitude?_layOut b.negative hleading point hrest
      have hvalue : ((Decimal.digitsValue digits * 10 ^ zeros : Nat) : ℚ)
          * 10 ^ (point - digits.length - zeros) =
          Decimal.digitsValue digits * 10 ^ (point - digits.length) := by
        rw [Nat.cast_mul, Nat.cast_pow, Nat.cast_ofNat, mul_assoc, ← zpow_natCast,
          ← zpow_add₀ (by norm_num), add_sub_cancel]
      rw [← Decimal.realOf_of_takes hb hpos (hvalue ▸ htakes)]
      exact number?_of_magnitude? hread

end ImageImports.Json

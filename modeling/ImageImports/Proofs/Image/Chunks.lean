import ImageImports.Proofs.Image.Layout
import ImageImports.Proofs.Reading

/-!
# What is laid out is found

A byte string *holds* a chunk at an offset when the chunk is what comes there.  Chunks
that are put one behind the other are held one behind the other, so whatever is laid out
is found at the sum of the lengths in front of it.  A chunk that is a number or a text is
then the number or the text that is read there.

## Main results

* `Bytes.holds_append_iff` — two chunks, one behind the other.
* `Bytes.Holds.number?`, `Bytes.Holds.textAt?` — numbers and texts are read where they
  were put.
-/

namespace ImageImports

open Layout

/-- A text that can be written: ASCII, and no zero among its characters. -/
def Layout.Writable (s : String) : Prop := ∀ c ∈ s.toList, 0 < c.toNat ∧ c.toNat < 128

instance (s : String) : Decidable (Layout.Writable s) :=
  List.decidableBAll (fun c : Char => 0 < c.toNat ∧ c.toNat < 128) s.toList

namespace Bytes

/-- A chunk is what comes at an offset. -/
def Holds (bytes : ByteArray) (offset : Nat) (chunk : List UInt8) : Prop :=
  chunk <+: after bytes offset

variable {bytes : ByteArray} {offset : Nat}

theorem holds_whole (chunk : List UInt8) : Holds ⟨chunk.toArray⟩ 0 chunk := by
  show chunk <+: chunk
  exact List.prefix_refl chunk

theorem holds_append_iff {first second : List UInt8} :
    Holds bytes offset (first ++ second) ↔
      Holds bytes offset first ∧ Holds bytes (offset + first.length) second := by
  have hafter : after bytes (offset + first.length) =
      (after bytes offset).drop first.length := by
    rw [after, after, List.drop_drop]
  constructor
  · rintro ⟨rest, hrest⟩
    rw [List.append_assoc] at hrest
    refine ⟨⟨_, hrest⟩, rest, ?_⟩
    rw [hafter, ← hrest, List.drop_left]
  · rintro ⟨⟨rest, hrest⟩, behind, hbehind⟩
    refine ⟨behind, ?_⟩
    rw [hafter, ← hrest, List.drop_left] at hbehind
    rw [List.append_assoc, hbehind, hrest]

theorem Holds.left {first second : List UInt8}
    (h : Holds bytes offset (first ++ second)) :
    Holds bytes offset first := (holds_append_iff.1 h).1

theorem Holds.right {first second : List UInt8}
    (h : Holds bytes offset (first ++ second)) :
    Holds bytes (offset + first.length) second := (holds_append_iff.1 h).2

/-- A chunk that is not empty is the run of its length. -/
theorem Holds.run? {chunk : List UInt8} (h : Holds bytes offset chunk)
    (hpos : 0 < chunk.length) :
    run? bytes offset chunk.length = some ⟨chunk.toArray⟩ := by
  have hlen := h.length_le
  rw [length_after] at hlen
  have hin : (0 : Int) ≤ offset ∧ (offset : Int) + chunk.length ≤ bytes.size := by omega
  rw [Bytes.run?, if_pos hin, Int.toNat_natCast]
  congr 1
  apply ByteArray.ext
  apply Array.toList_inj.1
  rw [toList_extract]
  exact (List.prefix_iff_eq_take.1 h).symm

/-! ## Numbers -/

@[simp] theorem length_digits (width n : Nat) : (digits width n).length = width := by
  induction width generalizing n with
  | zero => rfl
  | succ width ih => rw [digits, List.length_cons, ih]

/-- A number that fits is the value of its digits. -/
theorem digitsValue_digits {width n : Nat} (h : n < 256 ^ width) :
    digitsValue (digits width n) = n := by
  induction width generalizing n with
  | zero =>
    rw [Nat.pow_zero] at h
    show 0 = n
    omega
  | succ width ih =>
    have hrest : n / 256 < 256 ^ width := by
      rw [Nat.div_lt_iff_lt_mul (by decide)]
      rwa [Nat.pow_succ] at h
    have hdigit : (UInt8.ofNat n).toNat = n % 256 := by simp
    rw [digits, digitsValue, ih hrest, hdigit]
    exact Nat.mod_add_div n 256

/-- A number is read where its digits were put. -/
theorem Holds.number? {width n : Nat} (h : Holds bytes offset (digits width n))
    (hwidth : 0 < width) (hfits : n < 256 ^ width) :
    Bytes.number? bytes offset width = some (n : Int) := by
  have hrun := h.run? (by rwa [length_digits])
  rw [length_digits] at hrun
  rw [Bytes.number?, hrun, Option.map_some]
  show some ((digitsValue (digits width n) : Nat) : Int) = some (n : Int)
  rw [digitsValue_digits hfits]

@[simp] theorem length_record_cons (n width : Nat) (rest : List (Nat × Nat)) :
    (record ((n, width) :: rest)).length = width + (record rest).length := by
  rw [record, List.flatMap_cons, List.length_append, length_digits, record]

@[simp] theorem record_nil : record [] = [] := rfl

/-- The first field of a record, and the rest behind it. -/
theorem holds_record_cons {n width : Nat} {rest : List (Nat × Nat)} :
    Holds bytes offset (record ((n, width) :: rest)) ↔
      Holds bytes offset (digits width n)
        ∧ Holds bytes (offset + width) (record rest) := by
  rw [record, List.flatMap_cons, holds_append_iff, length_digits, record]

/-! ## Texts -/

theorem char_ofNat {c : Char} (h : c.toNat < 128) : char (UInt8.ofNat c.toNat) = c := by
  have hbyte : (UInt8.ofNat c.toNat).toNat = c.toNat := by
    simp
    omega
  have hlow : UInt8.ofNat c.toNat < 128 := by
    rw [UInt8.lt_iff_toNat_lt, hbyte]
    exact h
  rw [char, if_pos hlow, hbyte, Char.ofNat_toNat]

theorem ofNat_ne_zero {c : Char} (h : 0 < c.toNat ∧ c.toNat < 128) :
    UInt8.ofNat c.toNat ≠ 0 := by
  intro hzero
  have hvalue : (UInt8.ofNat c.toNat).toNat = 0 := by
    rw [hzero]
    rfl
  have hbyte : (UInt8.ofNat c.toNat).toNat = c.toNat := by
    simp
    omega
  omega

@[simp] theorem length_terminated (s : String) :
    (terminated s).length = s.length + 1 := by
  rw [terminated, List.length_append, List.length_map, String.length_toList]
  rfl

/-- The text in front of the zero behind it. -/
theorem terminated?_terminated {s : String} (hs : Writable s) (rest : List UInt8) :
    terminated? (terminated s ++ rest) =
      some (s.toList.map fun c => UInt8.ofNat c.toNat) := by
  have hzero : (0 : UInt8) ∈ terminated s ++ rest := by
    simp [terminated]
  have hall : ∀ b ∈ s.toList.map (fun c => UInt8.ofNat c.toNat),
      decide (b ≠ 0) = true := by
    intro b hb
    obtain ⟨c, hc, rfl⟩ := List.mem_map.1 hb
    rw [decide_eq_true_eq]
    exact ofNat_ne_zero (hs c hc)
  rw [terminated?, if_pos hzero, terminated, List.append_assoc,
    List.takeWhile_append_of_pos hall]
  simp

/-- A text is read where it was put. -/
theorem Holds.textAt? {s : String} (h : Holds bytes offset (terminated s))
    (hs : Writable s) :
    Bytes.textAt? bytes offset = some s := by
  obtain ⟨rest, hrest⟩ := h
  have hchars : (s.toList.map fun c => UInt8.ofNat c.toNat).map char = s.toList := by
    rw [List.map_map]
    apply (List.map_congr_left _).trans (List.map_id _)
    intro c hc
    exact char_ofNat (hs c hc).2
  rw [Bytes.textAt?, if_pos (Int.natCast_nonneg offset), Int.toNat_natCast, ← hrest,
    terminated?_terminated hs, Option.map_some, hchars, String.ofList_toList]

end Bytes

end ImageImports

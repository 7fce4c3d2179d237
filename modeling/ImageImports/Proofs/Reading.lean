import ImageImports.Import.Limits
import Mathlib.Algebra.Ring.Int.Defs
import Mathlib.Algebra.Ring.Nat
import Mathlib.Data.List.TakeWhile

/-!
# Reading by position

A reading head is state: where it stands decides what it reads next.  This module says
what a byte string holds at a place, without a head, and shows that every operation of the
head is such a reading at the place where the head stands.

* `Bytes.run?` is a run of bytes at an offset, none when the byte string does not hold all
  of it.
* `Bytes.number?` is the little-endian number in such a run.
* `Bytes.textAt?` is the text from an offset up to the next zero byte.

The text is read in blocks against a budget.  Its law, `Reader.readText_fst`, mentions no
block: the text at the head is found exactly when a zero byte follows and the text is no
longer than asked for.

## Main results

* `Reader.readExact_fst`, `Reader.readAt_fst` — an exact read is a run at the head.
* `Reader.readText_fst` — a bounded text is the text at the head, cut by its length.
* `Import.Limit.textAt?_of_readTextAt` — whatever kind of limit there is, a text that is
  read is the text at that offset.
-/

namespace ImageImports

namespace Bytes

/-! ## What a byte string holds at a place -/

/-- The bytes from an offset on. -/
def after (bytes : ByteArray) (offset : Nat) : List UInt8 := bytes.data.toList.drop offset

/-- The `count` bytes at an offset, if they are all there. -/
def run? (bytes : ByteArray) (offset : Int) (count : Nat) : Option ByteArray :=
  if 0 ≤ offset ∧ offset + count ≤ bytes.size then
    some (bytes.extract offset.toNat (offset.toNat + count))
  else none

/-- The little-endian number in the `width` bytes at an offset, if they are all there. -/
def number? (bytes : ByteArray) (offset : Int) (width : Nat) : Option Int :=
  (run? bytes offset width).map fun run => (littleEndian run : Int)

/-- The bytes of a list up to the first zero, if there is a zero. -/
def terminated? (bytes : List UInt8) : Option (List UInt8) :=
  if 0 ∈ bytes then some (bytes.takeWhile (· ≠ 0)) else none

/-- The text from an offset up to the next zero byte, if there is such a byte. -/
def textAt? (bytes : ByteArray) (offset : Int) : Option String :=
  if 0 ≤ offset then
    (terminated? (after bytes offset.toNat)).map fun cs => String.ofList (cs.map char)
  else none

theorem length_toList (bytes : ByteArray) : bytes.data.toList.length = bytes.size :=
  Array.length_toList

/-- The front of a block, up to a place in it. -/
theorem length_front {block : ByteArray} {stop : Nat} (h : stop ≤ block.size) :
    (block.extract 0 stop).data.toList.length = stop := by
  rw [length_toList, ByteArray.size_extract]
  omega

theorem length_after (bytes : ByteArray) (offset : Nat) :
    (after bytes offset).length = bytes.size - offset := by
  rw [after, List.length_drop, length_toList]

theorem toList_extract (bytes : ByteArray) (start count : Nat) :
    (bytes.extract start (start + count)).data.toList =
    (after bytes start).take count := by
  simp [after, ByteArray.data_extract, List.take_drop]

theorem run?_eq_some_iff {bytes run : ByteArray} {offset : Int} {count : Nat} :
    run? bytes offset count = some run ↔
      0 ≤ offset ∧ offset + count ≤ bytes.size
        ∧ bytes.extract offset.toNat (offset.toNat + count) = run := by
  simp only [run?]
  split
  · next h => simp [h.1, h.2]
  · next h =>
    constructor
    · intro hn
      cases hn
    · rintro ⟨h0, hle, -⟩
      exact absurd ⟨h0, hle⟩ h

theorem size_of_run? {bytes run : ByteArray} {offset : Int} {count : Nat}
    (h : run? bytes offset count = some run) : run.size = count := by
  obtain ⟨h0, hle, rfl⟩ := run?_eq_some_iff.1 h
  rw [ByteArray.size_extract]
  omega

/-- A field of a run is a number of the whole byte string. -/
theorem number?_of_run? {bytes run : ByteArray} {offset : Int} {count : Nat}
    (h : run? bytes offset count = some run) (start width : Nat)
    (hle : start + width ≤ count) :
    number? bytes (offset + start) width = some (field run start width : Int) := by
  obtain ⟨h0, hbound, rfl⟩ := run?_eq_some_iff.1 h
  have hin : 0 ≤ offset + start ∧ offset + start + width ≤ bytes.size := by omega
  have hstart : (offset + start).toNat = offset.toNat + start := by omega
  simp only [number?, run?, if_pos hin, Option.map_some, field, hstart,
    ByteArray.extract_extract]
  congr 4
  omega

/-! ## Texts in blocks

A block is the front part of what is left.  Either it holds the zero byte, and then the
text ends in it, or it holds none, and then the text goes on behind it.
-/

/-- Where a block holds a zero byte, the text ends in the block. -/
theorem terminated?_of_zeroIndex_lt {block : ByteArray} {rest : List UInt8} {count : Nat}
    (hblock : block.data.toList = rest.take count)
    (hzero : zeroIndex block < block.size) :
    terminated? rest = some (block.extract 0 (zeroIndex block)).data.toList := by
  have hprefix : (block.extract 0 (zeroIndex block)).data.toList =
      block.data.toList.takeWhile (· ≠ 0) := by
    have hcut := toList_extract block 0 (zeroIndex block)
    rw [Nat.zero_add] at hcut
    rw [hcut, after, List.drop_zero, zeroIndex]
    exact (List.prefix_iff_eq_take.1 (List.takeWhile_prefix _)).symm
  have hshort : (block.data.toList.takeWhile (· ≠ 0)).length ≠
      block.data.toList.length := by
    simp only [zeroIndex, ByteArray.size, ← Array.length_toList] at hzero
    omega
  have hmem : (0 : UInt8) ∈ block.data.toList := by
    by_contra hnone
    apply hshort
    rw [List.takeWhile_eq_self_iff.2]
    intro b hb
    simp only [ne_eq, decide_eq_true_eq]
    rintro rfl
    exact hnone hb
  have hsplit : rest = block.data.toList ++ rest.drop count := by
    rw [hblock, List.take_append_drop]
  have hin : (0 : UInt8) ∈ rest := by
    rw [hsplit]
    exact List.mem_append_left _ hmem
  rw [terminated?, if_pos hin, hprefix, hsplit, List.takeWhile_append, if_neg hshort]

/-- Where a block holds no zero byte, the text goes on behind it. -/
theorem terminated?_of_size_le_zeroIndex {block : ByteArray} {rest : List UInt8}
    {count : Nat} (hblock : block.data.toList = rest.take count)
    (hzero : block.size ≤ zeroIndex block) :
    terminated? rest = (terminated? (rest.drop count)).map (block.data.toList ++ ·) := by
  have hlen : (block.data.toList.takeWhile (· ≠ 0)).length =
      block.data.toList.length := by
    have hle := (List.takeWhile_prefix (l := block.data.toList) (· ≠ 0)).length_le
    simp only [zeroIndex, ByteArray.size, ← Array.length_toList] at hzero
    omega
  have hnone : (0 : UInt8) ∉ block.data.toList := by
    intro hmem
    have hall := List.takeWhile_eq_self_iff.1
      ((List.takeWhile_prefix (· ≠ 0)).eq_of_length hlen) 0 hmem
    simp at hall
  have hsplit : rest = block.data.toList ++ rest.drop count := by
    rw [hblock, List.take_append_drop]
  have hmem : 0 ∈ rest ↔ 0 ∈ rest.drop count := by
    constructor
    · intro h
      rw [hsplit] at h
      exact (List.mem_append.1 h).resolve_left hnone
    · exact List.mem_of_mem_drop
  by_cases hz : 0 ∈ rest.drop count
  · rw [terminated?, if_pos (hmem.2 hz), terminated?, if_pos hz, Option.map_some]
    conv => lhs; rw [hsplit]
    rw [List.takeWhile_append, if_pos hlen]
  · rw [terminated?, if_neg (mt hmem.1 hz), terminated?, if_neg hz, Option.map_none]

end Bytes

namespace Reader

/-! ## The head reads where it stands -/

theorem toList_read (r : Reader) (count : Int) :
    (r.read count).1.data.toList = (Bytes.after r.data r.pos).take count.toNat := by
  have hstop : min (r.pos + count.toNat) (max r.pos r.size) =
      r.pos + min count.toNat (r.size - r.pos) := by omega
  have hlen := Bytes.length_after r.data r.pos
  simp only [read, hstop, Bytes.toList_extract]
  rw [List.take_eq_take_iff, hlen]
  simp only [size]
  omega

theorem size_read (r : Reader) (count : Int) :
    (r.read count).1.size = min count.toNat (r.size - r.pos) := by
  rw [← Bytes.length_toList, toList_read, List.length_take, Bytes.length_after, size]

theorem readExact_eq (r : Reader) (count : Int) :
    r.readExact count =
      (if ((r.read count).1.size : Int) = count then some (r.read count).1 else none,
        (r.read count).2) := rfl

/-- Where the run is there, an exact read gives it and moves behind it. -/
theorem readExact_of_run? {r : Reader} {count : Nat} {run : ByteArray}
    (h : Bytes.run? r.data r.pos count = some run) :
    r.readExact count = (some run, { r with pos := r.pos + count }) := by
  obtain ⟨-, hle, hrun⟩ := Bytes.run?_eq_some_iff.1 h
  have hsize : (r.read count).1.size = count := by
    rw [size_read, size]
    omega
  have hblock : (r.read count).1 = run := by
    have hstop : min (r.pos + count) (max r.pos r.data.size) = r.pos + count := by omega
    rw [← hrun, read, size]
    simp only [Int.toNat_natCast, hstop]
  have hafter : (r.read count).2 = { r with pos := r.pos + (r.read count).1.size } := rfl
  rw [readExact_eq, if_pos (by exact_mod_cast hsize), hafter, hsize, hblock]

/-- Where the run is not there, an exact read of at least one byte gives nothing. -/
theorem readExact_of_run?_eq_none {r : Reader} {count : Nat} (hcount : 0 < count)
    (h : Bytes.run? r.data r.pos count = none) : (r.readExact count).1 = none := by
  have hshort : (r.read count).1.size ≠ count := by
    rw [size_read, size]
    intro heq
    have hin : (0 : Int) ≤ r.pos ∧ (r.pos : Int) + count ≤ r.data.size := by omega
    rw [Bytes.run?, if_pos hin] at h
    cases h
  rw [readExact_eq, if_neg (by exact_mod_cast hshort)]

/-- An exact read of at least one byte gives the run at the head. -/
theorem readExact_fst (r : Reader) {count : Nat} (hcount : 0 < count) :
    (r.readExact count).1 = Bytes.run? r.data r.pos count := by
  cases h : Bytes.run? r.data r.pos count with
  | none => exact readExact_of_run?_eq_none hcount h
  | some run => rw [readExact_of_run? h]

/-- An exact read that succeeds gave the run at the head and moved behind it. -/
theorem run?_of_readExact {r after : Reader} {count : Nat} {run : ByteArray}
    (hcount : 0 < count) (h : r.readExact count = (some run, after)) :
    Bytes.run? r.data r.pos count = some run
      ∧ after = { r with pos := r.pos + count } := by
  have hrun : Bytes.run? r.data r.pos count = some run := by
    rw [← readExact_fst r hcount, h]
  have hafter := (readExact_of_run? hrun).symm.trans h
  injection hafter with _ hafter
  exact ⟨hrun, hafter.symm⟩

/-- An exact read that fails found no run at the head. -/
theorem run?_of_readExact_none {r after : Reader} {count : Nat} (hcount : 0 < count)
    (h : r.readExact count = (none, after)) : Bytes.run? r.data r.pos count = none := by
  rw [← readExact_fst r hcount, h]

theorem seek?_eq_some_iff {r there : Reader} {offset : Int} :
    r.seek? offset = some there ↔
      0 ≤ offset ∧ offset ≤ r.data.size ∧ there = ⟨r.data, offset.toNat⟩ := by
  by_cases h : 0 ≤ offset ∧ offset ≤ r.data.size
  · rw [seek?, size, if_pos h, Option.some_inj, eq_comm]
    simp [h.1, h.2]
  · rw [seek?, size, if_neg h]
    constructor
    · intro hn
      cases hn
    · rintro ⟨h0, hle, -⟩
      exact absurd ⟨h0, hle⟩ h

/-- Where a position is taken does not depend on where the head stands. -/
theorem seek?_eq (r : Reader) (offset : Int) :
    r.seek? offset = seek? ⟨r.data, 0⟩ offset := rfl

/-- An exact read aside of at least one byte gives the run at the offset. -/
theorem readAt_fst (r : Reader) (offset : Int) {count : Nat} (hcount : 0 < count) :
    (r.readAt offset count).1 = Bytes.run? r.data offset count := by
  simp only [readAt, aside]
  cases h : r.seek? offset with
  | none =>
    have hout : ¬ (0 ≤ offset ∧ offset + count ≤ r.data.size) := by
      rintro ⟨h0, hle⟩
      have hsome := (seek?_eq_some_iff (r := r)).2 ⟨h0, by omega, rfl⟩
      rw [h] at hsome
      cases hsome
    rw [Bytes.run?, if_neg hout]
  | some there =>
    obtain ⟨h0, -, rfl⟩ := seek?_eq_some_iff.1 h
    simp only
    rw [readExact_fst _ hcount, Int.toNat_of_nonneg h0]

/-- An exact read of at least one byte at a place gives the run there. -/
theorem map_readExact_eq_some_iff {r after : Reader} {offset : Int} {count : Nat}
    {run : ByteArray} (hcount : 0 < count) :
    (r.seek? offset).map (·.readExact count) = some (some run, after) ↔
      Bytes.run? r.data offset count = some run ∧ after = ⟨r.data, offset.toNat + count⟩ := by
  constructor
  · intro h
    obtain ⟨there, hseek, hexact⟩ := Option.map_eq_some_iff.1 h
    obtain ⟨h0, -, rfl⟩ := seek?_eq_some_iff.1 hseek
    obtain ⟨hrun, rfl⟩ := run?_of_readExact hcount hexact
    simp only [Int.toNat_of_nonneg h0] at hrun
    exact ⟨hrun, rfl⟩
  · rintro ⟨hrun, rfl⟩
    obtain ⟨h0, hle, -⟩ := Bytes.run?_eq_some_iff.1 hrun
    have hseek : r.seek? offset = some ⟨r.data, offset.toNat⟩ :=
      seek?_eq_some_iff.2 ⟨h0, by omega, rfl⟩
    have hhead : Bytes.run? r.data (offset.toNat : Nat) count = some run := by
      rwa [Int.toNat_of_nonneg h0]
    rw [hseek, Option.map_some]
    exact congrArg some (readExact_of_run? (r := ⟨r.data, offset.toNat⟩) hhead)

/-! ### Texts -/

/-- What is left behind a block is left behind the head that read it. -/
theorem after_read (r : Reader) (count : Int) :
    Bytes.after (r.read count).2.data (r.read count).2.pos =
      (Bytes.after r.data r.pos).drop count.toNat := by
  have hlen := Bytes.length_after r.data r.pos
  rw [data_read, pos_read, size_read, Bytes.after, ← List.drop_drop, ← Bytes.after]
  rcases Nat.le_total count.toNat (r.size - r.pos) with hle | hle
  · rw [Nat.min_eq_left hle]
  · rw [Nat.min_eq_right hle, List.drop_eq_nil_of_le (by rw [hlen, size]),
      List.drop_eq_nil_of_le (by rw [hlen]; exact hle)]

/-- Where a block comes empty, the bytes have ended. -/
theorem after_eq_nil_of_block {r : Reader} {left : Nat}
    (h : (r.read (min blockSize (left + 1) : Int)).1.size = 0) :
    Bytes.after r.data r.pos = [] := by
  have hsize := r.size_read (min blockSize (left + 1) : Int)
  have hlen := Bytes.length_after r.data r.pos
  simp only [size, blockSize] at h hsize
  exact List.eq_nil_of_length_eq_zero (by omega)

/-- A block takes from the length of a text and from its budget alike. -/
theorem filter_block_append {block : ByteArray} {budget : Nat} (hle : block.size ≤ budget)
    (rest? : Option (List UInt8)) :
    (rest?.map (block.data.toList ++ ·)).filter (·.length < budget) =
      (rest?.filter (·.length < budget - block.size)).map (block.data.toList ++ ·) := by
  cases rest? with
  | none => rfl
  | some cs =>
    have hcut : (block.data.toList ++ cs).length < budget ↔
        cs.length < budget - block.size := by
      rw [List.length_append, Bytes.length_toList]
      omega
    simp only [Option.map_some, Option.filter_some, hcut]
    split <;> rfl

/-- Reading by blocks finds the bytes up to the next zero byte, if they and the zero byte
lie within the budget. -/
theorem readTextBlocks_fst (r : Reader) (budget : Nat) (found : ByteArray) :
    (r.readTextBlocks budget found).1 =
      ((Bytes.terminated? (Bytes.after r.data r.pos)).filter (·.length < budget)).map
        fun cs => String.ofList ((found.data.toList ++ cs).map Bytes.char) := by
  fun_induction readTextBlocks r budget found with
  | case1 r found => simp
  | case2 r found left got block hnone => simp [after_eq_nil_of_block hnone, Bytes.terminated?]
  | case3 r found left got block hsome stop hstop =>
    have hsize : block.size =
        min (min blockSize (left + 1) : Int).toNat (r.size - r.pos) :=
      r.size_read _
    have hfound := Bytes.terminated?_of_zeroIndex_lt (r.toList_read _) hstop
    have hlen : (block.extract 0 stop).data.toList.length < left + 1 := by
      rw [Bytes.length_front (Nat.le_of_lt hstop)]
      omega
    rw [hfound, Option.filter_some,
      if_pos (by simpa using hlen), Option.map_some, Bytes.text,
      ByteArray.data_append, Array.toList_append]
  | case4 r found left got block hsome stop hstop ih =>
    have hsize : block.size =
        min (min blockSize (left + 1) : Int).toNat (r.size - r.pos) :=
      r.size_read _
    have hrest : Bytes.after got.2.data got.2.pos = _ := r.after_read _
    have hfound := Bytes.terminated?_of_size_le_zeroIndex (r.toList_read _)
      (Nat.le_of_not_lt hstop)
    have hwithin : block.size ≤ left + 1 := by omega
    rw [ih, hrest, hfound, filter_block_append hwithin, Option.map_map,
      ByteArray.data_append, Array.toList_append]
    simp only [Function.comp_def, List.append_assoc]

/-- The text at the head is the text up to the next zero byte, when it is no longer than
asked. -/
theorem readText_fst (r : Reader) (maxLength : Int) :
    (r.readText maxLength).1 =
      (Bytes.textAt? r.data r.pos).filter fun s => (s.length : Int) ≤ maxLength := by
  have hpos : (0 : Int) ≤ r.pos := Int.natCast_nonneg _
  rw [readText, readTextBlocks_fst, Bytes.textAt?, if_pos hpos, Int.toNat_natCast]
  cases Bytes.terminated? (Bytes.after r.data r.pos) with
  | none => rfl
  | some cs =>
    have hcut : cs.length < (maxLength + 1).toNat ↔
        ((String.ofList (cs.map Bytes.char)).length : Int) ≤ maxLength := by
      rw [String.length_ofList, List.length_map]
      omega
    simp only [Option.map_some, Option.filter_some, hcut]
    split <;> rfl

end Reader

namespace Import.Limit

/-! ## Texts under a limit -/

/-- A text that is read within a budget with a fraction ends at the next zero byte. -/
theorem terminated?_of_readTextWithin {budget : Float} {fuel : Nat} {r : Reader}
    {consumed : Nat} {found : ByteArray} {s : String}
    (h : (readTextWithin budget fuel r consumed found).1 = .ok (some s)) :
    ∃ cs, Bytes.terminated? (Bytes.after r.data r.pos) = some cs
      ∧ s = String.ofList ((found.data.toList ++ cs).map Bytes.char) := by
  fun_induction readTextWithin budget fuel r consumed found with
  | case1 => cases h
  | case2 => cases h
  | case3 => cases h
  | case4 => cases h
  | case5 fuel r consumed found left hleft hwhole got block stop hempty hstop =>
    have hfound := Bytes.terminated?_of_zeroIndex_lt (r.toList_read Reader.blockSize) hstop
    refine ⟨_, hfound, ?_⟩
    injection h with h
    injection h with h
    rw [← h, Bytes.text, ByteArray.data_append, Array.toList_append]
  | case6 fuel r consumed found left hleft hwhole got block stop hempty hstop ih =>
    -- The block has no zero: the text goes on behind it, with the block in front.
    have hrest : Bytes.after got.2.data got.2.pos = _ := r.after_read Reader.blockSize
    obtain ⟨cs, hcs, rfl⟩ := ih h
    refine ⟨block.data.toList ++ cs, ?_, ?_⟩
    · rw [Bytes.terminated?_of_size_le_zeroIndex (r.toList_read Reader.blockSize)
        (Nat.le_of_not_lt hstop), ← hrest, hcs, Option.map_some]
    · rw [ByteArray.data_append, Array.toList_append, List.append_assoc]

/-- A text that is read is the text at the head, whatever kind of limit there is. -/
theorem textAt?_of_readText {limit : Limit} {r : Reader} {s : String}
    (h : (limit.readText r).1 = .ok (some s)) : Bytes.textAt? r.data r.pos = some s := by
  have hpos : (0 : Int) ≤ r.pos := Int.natCast_nonneg _
  rw [readText] at h
  split at h
  · have htext : (r.readText limit.bound).1 = some s := Except.ok.inj h
    rw [Reader.readText_fst] at htext
    exact (Option.filter_eq_some_iff.1 htext).1
  · obtain ⟨cs, hcs, rfl⟩ := terminated?_of_readTextWithin h
    rw [Bytes.textAt?, if_pos hpos, Int.toNat_natCast, hcs, Option.map_some]
    rfl
  · cases h

/-- A text that is read aside is the text at the offset. -/
theorem textAt?_of_readTextAt {limit : Limit} {r : Reader} {offset : Int} {s : String}
    (h : (limit.readTextAt r offset).1 = .ok (some s)) :
    Bytes.textAt? r.data offset = some s := by
  simp only [readTextAt, Reader.aside] at h
  split at h
  · cases h
  · next there hthere =>
    obtain ⟨h0, -, rfl⟩ := Reader.seek?_eq_some_iff.1 hthere
    have htext := textAt?_of_readText h
    rwa [Int.toNat_of_nonneg h0] at htext

/-- A text under a whole limit is the text at the head, cut by its length. -/
theorem readText_of_whole {limit : Limit} (hwhole : limit.kind = .whole) (r : Reader) :
    (limit.readText r).1 =
      .ok ((Bytes.textAt? r.data r.pos).filter fun s =>
        (s.length : Int) ≤ limit.bound) := by
  rw [readText, hwhole, ← Reader.readText_fst]

/-- A text aside under a whole limit is the text at the offset, cut by its length. -/
theorem readTextAt_of_whole {limit : Limit} (hwhole : limit.kind = .whole) (r : Reader)
    (offset : Int) :
    (limit.readTextAt r offset).1 =
      .ok ((Bytes.textAt? r.data offset).filter fun s =>
        (s.length : Int) ≤ limit.bound) := by
  rw [readTextAt, Reader.aside]
  cases hthere : r.seek? offset with
  | none =>
    have hout : Bytes.textAt? r.data offset = none := by
      by_cases h0 : 0 ≤ offset
      · have hfar : r.data.size ≤ offset.toNat := by
          by_contra hin
          have hsome := (Reader.seek?_eq_some_iff (r := r)).2 ⟨h0, by omega, rfl⟩
          rw [hthere] at hsome
          cases hsome
        have hempty : Bytes.after r.data offset.toNat = [] :=
          List.drop_eq_nil_of_le (by rwa [Bytes.length_toList])
        rw [Bytes.textAt?, if_pos h0, hempty]
        rfl
      · rw [Bytes.textAt?, if_neg h0]
    rw [hout]
    rfl
  | some there =>
    obtain ⟨h0, -, rfl⟩ := Reader.seek?_eq_some_iff.1 hthere
    have htext := readText_of_whole hwhole ⟨r.data, offset.toNat⟩
    rwa [Int.toNat_of_nonneg h0] at htext

end Import.Limit

end ImageImports

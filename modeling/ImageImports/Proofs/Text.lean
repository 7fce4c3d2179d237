import ImageImports.Proofs.Source

/-!
# Texts by position

A text ends at the first zero byte from the head on.  This module says by indices what is
read then, without a block, a budget or a byte that is looked at twice.  The text is found
when the zero byte is no farther from the head than the text may be long, and the head ends
just behind it.  Otherwise nothing is found, and the head ends behind as many bytes as a text
and its zero byte may have, or where the bytes end.

The head walks in blocks, and the last block is cut by the budget.  What carries the proof is
that a block without a zero byte takes as much from the budget as it moves the head, so the
place where the search gives up is the same for every alignment.

## Main results

* `Reader.pos_readTextBlocks_eq` — where the search through blocks leaves the head.
* `Reader.readText_scans` — a bounded text is the naive scan from the head.
* `Source.step_readText_scans` — the same of an open source, and of texts aside.
-/

namespace ImageImports

namespace Bytes

/-! ## Zero bytes and characters by index -/

/-- The first zero byte from `start` on stands at `stop`. -/
structure FirstZero (bytes : ByteArray) (start stop : Nat) : Prop where
  le : start ≤ stop
  zero : bytes.data[stop]? = some 0
  before : ∀ i, start ≤ i → i < stop → bytes.data[i]? ≠ some 0

/-- A text has one character for each byte from `start` up to `stop`: the ASCII character of a
byte below 128, and the replacement character for any other byte. -/
structure Spells (bytes : ByteArray) (start stop : Nat) (s : String) : Prop where
  length : start + s.length = stop
  char : ∀ i b, start + i < stop → bytes.data[start + i]? = some b →
    s.toList[i]? = some (if b < 128 then Char.ofNat b.toNat else '\uFFFD')

/-- What a naive scan from `start` finds and where it ends. -/
inductive Scans (bytes : ByteArray) (start : Nat) (maxLength : Int) :
    Option String → Nat → Prop
  | found {stop : Nat} {s : String} : FirstZero bytes start stop →
      (stop : Int) - start ≤ maxLength → Spells bytes start stop s →
      Scans bytes start maxLength (some s) (stop + 1)
  | missing : (∀ stop, FirstZero bytes start stop → maxLength < (stop : Int) - start) →
      Scans bytes start maxLength none (min bytes.size (start + (maxLength + 1).toNat))

variable {bytes : ByteArray} {start stop : Nat}

theorem getElem?_after (bytes : ByteArray) (start i : Nat) :
    (after bytes start)[i]? = bytes.data[start + i]? := by
  rw [after, List.getElem?_drop, Array.getElem?_toList]

theorem FirstZero.unique {other : Nat} (h : FirstZero bytes start stop)
    (h' : FirstZero bytes start other) : stop = other := by
  rcases Nat.lt_trichotomy stop other with hlt | heq | hlt
  · exact absurd h.zero (h'.before stop h.le hlt)
  · exact heq
  · exact absurd h'.zero (h.before other h'.le hlt)

theorem FirstZero.lt_size (h : FirstZero bytes start stop) : stop < bytes.size :=
  (Array.getElem?_eq_some_iff.1 h.zero).1

/-- The same bytes are spelled in one way. -/
theorem Spells.unique {s t : String} (h : Spells bytes start stop s)
    (h' : Spells bytes start stop t) (hstop : stop ≤ bytes.size) : s = t := by
  have hlength := h.length
  have hlength' := h'.length
  refine String.toList_inj.1 (List.ext_getElem? fun i => ?_)
  by_cases hi : start + i < stop
  · have hlt : start + i < bytes.data.size := Nat.lt_of_lt_of_le hi hstop
    have hb : bytes.data[start + i]? = some bytes.data[start + i] :=
      Array.getElem?_eq_getElem hlt
    rw [h.char i _ hi hb, h'.char i _ hi hb]
  · rw [List.getElem?_eq_none (by rw [String.length_toList]; omega),
      List.getElem?_eq_none (by rw [String.length_toList]; omega)]

/-- A naive scan has one outcome. -/
theorem Scans.unique {maxLength : Int} {text? text?' : Option String} {last last' : Nat}
    (h : Scans bytes start maxLength text? last)
    (h' : Scans bytes start maxLength text?' last') : text? = text?' ∧ last = last' := by
  cases h with
  | found hzero hle hspells =>
    cases h' with
    | found hzero' hle' hspells' =>
      have heq := hzero.unique hzero'
      subst heq
      exact ⟨congrArg some (hspells.unique hspells' (Nat.le_of_lt hzero.lt_size)), rfl⟩
    | missing hnone => exact absurd (hnone _ hzero) (by omega)
  | missing hnone =>
    cases h' with
    | found hzero' hle' hspells' => exact absurd (hnone _ hzero') (by omega)
    | missing hnone' => exact ⟨rfl, rfl⟩

/-- A run of characters that stand for the bytes from `start` on spells them. -/
theorem spells_of_prefix {cs : List UInt8} (h : cs <+: after bytes start) :
    Spells bytes start (start + cs.length) (String.ofList (cs.map char)) where
  length := by rw [String.length_ofList, List.length_map]
  char i b hi hb := by
    have hlt : i < cs.length := by omega
    have hmem : cs[i]? = some b := by
      obtain ⟨rest, hrest⟩ := h
      rw [← hb, ← getElem?_after, ← hrest, List.getElem?_append_left hlt]
    rw [String.toList_ofList, List.getElem?_map, hmem, Option.map_some, char]

/-- Where a zero byte follows, it ends the text at its index. -/
theorem firstZero_of_terminated? {cs : List UInt8}
    (h : terminated? (after bytes start) = some cs) :
    FirstZero bytes start (start + cs.length)
      ∧ Spells bytes start (start + cs.length) (String.ofList (cs.map char)) := by
  rw [terminated?] at h
  split at h
  · next hmem =>
    obtain ⟨front, rest, hsplit, hfront⟩ := List.eq_append_cons_of_mem hmem
    have hcs : cs = front := by
      have hpass : ∀ b ∈ front, decide (b ≠ 0) = true := by
        intro b hb
        simp only [ne_eq, decide_eq_true_eq]
        rintro rfl
        exact hfront hb
      rw [← Option.some.inj h, hsplit, List.takeWhile_append_of_pos hpass,
        List.takeWhile_cons_of_neg (by simp), List.append_nil]
    subst hcs
    refine ⟨⟨Nat.le_add_right _ _, ?_, fun i hle hlt hzero => ?_⟩,
      spells_of_prefix ⟨0 :: rest, hsplit.symm⟩⟩
    · rw [← getElem?_after, hsplit, List.getElem?_append_right (Nat.le_refl _), Nat.sub_self,
        List.getElem?_cons_zero]
    · obtain ⟨j, rfl⟩ := Nat.exists_eq_add_of_le hle
      rw [← getElem?_after, hsplit, List.getElem?_append_left (by omega)] at hzero
      exact hfront (List.mem_of_getElem? hzero)
  · cases h

/-- Where no zero byte follows, there is no first one. -/
theorem not_firstZero_of_terminated? (h : terminated? (after bytes start) = none) :
    ¬ FirstZero bytes start stop := by
  intro hzero
  obtain ⟨j, rfl⟩ := Nat.exists_eq_add_of_le hzero.le
  have hmem : (0 : UInt8) ∈ after bytes start :=
    List.mem_of_getElem? ((getElem?_after bytes start j).trans hzero.zero)
  rw [terminated?, if_pos hmem] at h
  cases h

end Bytes

namespace Reader

/-! ## Where the search ends -/

/-- The search through blocks ends just behind the zero byte when that lies within the budget,
and otherwise behind the budget or at the end of the bytes. -/
theorem pos_readTextBlocks_eq {r : Reader} (hpos : r.pos ≤ r.size) (budget : Nat)
    (found : ByteArray) :
    (r.readTextBlocks budget found).2.pos =
      match (Bytes.terminated? (Bytes.after r.data r.pos)).filter (·.length < budget) with
      | some cs => r.pos + cs.length + 1
      | none => min r.size (r.pos + budget) := by
  fun_induction readTextBlocks r budget found with
  | case1 r found =>
    have hnone (cs? : Option (List UInt8)) : cs?.filter (·.length < 0) = none := by
      cases cs? <;> simp
    rw [hnone]
    simp only
    omega
  | case2 r found left got block hnone =>
    have hempty := after_eq_nil_of_block hnone
    have hlen := Bytes.length_after r.data r.pos
    rw [hempty, List.length_nil] at hlen
    have hsize : r.size = r.data.size := rfl
    have hstay : got.2.pos = r.pos + block.size := rfl
    simp only [hempty, Bytes.terminated?, List.not_mem_nil, if_false, Option.filter_none]
    show got.2.pos = min r.size (r.pos + (left + 1))
    omega
  | case3 r found left got block hsome stop hstop =>
    have hsize : block.size = min (min blockSize (left + 1) : Int).toNat (r.size - r.pos) :=
      r.size_read _
    have hfound : Bytes.terminated? (Bytes.after r.data r.pos) =
        some (block.extract 0 stop).data.toList :=
      Bytes.terminated?_of_zeroIndex_lt (r.toList_read _) hstop
    have hlen : (block.extract 0 stop).data.toList.length = stop :=
      Bytes.length_front (Nat.le_of_lt hstop)
    have hwithin : (block.extract 0 stop).data.toList.length < left + 1 := by omega
    rw [hfound, Option.filter_some, if_pos (by simpa using hwithin)]
    simp only [hlen]
  | case4 r found left got block hsome stop hstop ih =>
    have hsize : block.size = min (min blockSize (left + 1) : Int).toNat (r.size - r.pos) :=
      r.size_read _
    have hplace : got.2.pos = r.pos + block.size := rfl
    have hrest : Bytes.after got.2.data got.2.pos = _ := r.after_read _
    have hfound : _ = Option.map (block.data.toList ++ ·) _ :=
      Bytes.terminated?_of_size_le_zeroIndex (r.toList_read _) (Nat.le_of_not_lt hstop)
    -- What the block takes from the budget is what it moves the head.
    have hbudget : got.2.pos + (left + 1 - block.size) = r.pos + (left + 1) := by omega
    have hdata : got.2.size = r.size := rfl
    have hwithin : block.size ≤ left + 1 := by omega
    rw [ih (pos_read_le hpos _), hrest, hfound, filter_block_append hwithin, hbudget, hdata]
    cases Option.filter _ (Bytes.terminated? (List.drop _ (Bytes.after r.data r.pos))) with
    | none => rfl
    | some cs =>
      show got.2.pos + cs.length + 1 = r.pos + (block.data.toList ++ cs).length + 1
      rw [List.length_append, Bytes.length_toList, hplace]
      omega

/-- A bounded text at the head is the naive scan from there. -/
theorem readText_scans {r : Reader} (hpos : r.pos ≤ r.size) (maxLength : Int) :
    ∃ text? last, r.readText maxLength = (text?, ⟨r.data, last⟩)
      ∧ Bytes.Scans r.data r.pos maxLength text? last := by
  have htext := r.readText_fst maxLength
  have hlast := pos_readTextBlocks_eq hpos (maxLength + 1).toNat .empty
  have hdata := r.data_readText maxLength
  cases hread : r.readText maxLength with
  | mk text? there =>
    obtain ⟨data, last⟩ := there
    rw [hread] at htext hdata
    rw [← readText, hread] at hlast
    cases hdata
    refine ⟨text?, last, rfl, ?_⟩
    rw [show text? = _ from htext, show last = _ from hlast, Bytes.textAt?,
      if_pos (Int.natCast_nonneg r.pos), Int.toNat_natCast]
    cases hfound : Bytes.terminated? (Bytes.after r.data r.pos) with
    | none =>
      exact .missing fun stop hzero => absurd hzero (Bytes.not_firstZero_of_terminated? hfound)
    | some cs =>
      obtain ⟨hzero, hspells⟩ := Bytes.firstZero_of_terminated? hfound
      have hlength : (String.ofList (cs.map Bytes.char)).length = cs.length := by
        rw [String.length_ofList, List.length_map]
      simp only [Option.map_some, Option.filter_some, hlength, decide_eq_true_eq]
      by_cases hle : (cs.length : Int) ≤ maxLength
      · have hwithin : cs.length < (maxLength + 1).toNat := by omega
        rw [if_pos hle, if_pos hwithin]
        exact .found hzero (by omega) hspells
      · have hwithin : ¬ cs.length < (maxLength + 1).toNat := by omega
        rw [if_neg hle, if_neg hwithin]
        refine .missing fun stop hstop => ?_
        have heq := hzero.unique hstop
        omega

end Reader

namespace Source

/-! ## Texts of a source -/

/-- The source with its head at another place. -/
def headedTo (s : Source) (pos : Nat) : Source := { s with reader := ⟨s.reader.data, pos⟩ }

theorem closedFault?_of_isOpen {s : Source} (hopen : s.isOpen = true) (act : Act) :
    s.closedFault? act = none := by
  rw [closedFault?, if_pos hopen]

/-- **A text is what a naive scan finds**: whatever the bytes, the place of the head and the
longest text asked for, reading a text from an open source answers what the naive scan from
the head finds and leaves the head where that ends.  Reading a text aside answers the same as
reading it at the offset, nothing when the offset is no place of the head, and leaves the
source as it was. -/
theorem step_readText_scans {s : Source} (hopen : s.isOpen = true)
    (hpos : s.reader.pos ≤ s.reader.size) (maxLength : Int) :
    (∃ text? last, s.step (.readText maxLength) = (.ok (.text text?), s.headedTo last)
        ∧ Bytes.Scans s.reader.data s.reader.pos maxLength text? last)
      ∧ ∀ offset : Int,
        (IsPlace s.reader.data offset →
          ∃ text? last, s.step (.readTextAt offset maxLength) = (.ok (.text text?), s)
            ∧ Bytes.Scans s.reader.data offset.toNat maxLength text? last)
        ∧ (¬ IsPlace s.reader.data offset →
          s.step (.readTextAt offset maxLength) = (.ok (.text none), s)) := by
  have hfault := closedFault?_of_isOpen hopen
  refine ⟨?_, fun offset => ⟨fun hplace => ?_, fun hplace => ?_⟩⟩
  · obtain ⟨text?, last, hread, hscans⟩ := Reader.readText_scans hpos maxLength
    refine ⟨text?, last, ?_, hscans⟩
    rw [step, hfault, ite_self]
    simp only [answer, hread]
    rfl
  · obtain ⟨text?, last, hread, hscans⟩ :=
      Reader.readText_scans (r := ⟨s.reader.data, offset.toNat⟩) (isPlace_toNat_le hplace)
        maxLength
    have hseek : s.reader.seek? offset = some ⟨s.reader.data, offset.toNat⟩ :=
      seek?_of_isPlace hplace
    refine ⟨text?, last, ?_, hscans⟩
    rw [step, hfault]
    simp only [answer, Reader.readTextAt, Reader.aside, hseek, hread]
  · have hseek : s.reader.seek? offset = none := seek?_of_not_isPlace hplace
    rw [step, hfault]
    simp only [answer, Reader.readTextAt, Reader.aside, hseek]

/-- A text with a byte outside ASCII, exactly as long as asked for. -/
theorem step_readText_scans_sample :
    let s := headAt ⟨#[0x61, 0x62, 0xff, 0, 0x63]⟩ "a" 1
    s.isOpen = true ∧ s.reader.pos ≤ s.reader.size
      ∧ Bytes.Scans s.reader.data 1 2 (some "b\uFFFD") 4
      ∧ s.step (.readText 2) = (.ok (.text (some "b\uFFFD")), s.headedTo 4)
      ∧ s.step (.readTextAt 6 2) = (.ok (.text none), s) := by
  intro s
  have hpos : s.reader.pos ≤ s.reader.size := by decide
  obtain ⟨⟨text?, last, hstep, hscans⟩, haside⟩ := step_readText_scans (s := s) rfl hpos 2
  have hzero : Bytes.FirstZero s.reader.data 1 3 := ⟨by decide, rfl, by decide⟩
  have hspells : Bytes.Spells s.reader.data 1 3 "b\uFFFD" := by
    refine ⟨rfl, fun i b hi hb => ?_⟩
    have hi : i = 0 ∨ i = 1 := by omega
    rcases hi with rfl | rfl
    · cases hb
      rfl
    · cases hb
      rfl
  have hfound : Bytes.Scans s.reader.data 1 2 (some "b\uFFFD") 4 :=
    .found hzero (by decide) hspells
  obtain ⟨rfl, rfl⟩ := hscans.unique hfound
  have houtside : ¬ IsPlace s.reader.data 6 := fun hplace => absurd hplace.2 (by decide)
  exact ⟨rfl, hpos, hfound, hstep, (haside 6).2 houtside⟩

end Source

end ImageImports

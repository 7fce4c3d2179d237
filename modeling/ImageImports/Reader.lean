import ImageImports.Bytes

/-!
# A reading head over a byte string

A `Reader` is a byte string and a position in it.  Reading never fails by surprise: `read` returns
what is left when too little is, `readExact` returns nothing instead of a short run, `seek?` refuses
a position outside the byte string, and `readText` refuses a text that is longer than asked for or
that the byte string ends before terminating.  Offsets and counts are integers, because they come
from headers and settings that nobody has checked.

## Main results

* `pos_read_le` — a read from inside the byte string ends inside it.
* `readAt_snd`, `readTextAt_snd` — reading aside leaves the head where it was.
-/

namespace ImageImports

/-- A position in a byte string. -/
structure Reader where
  /-- What is read. -/
  data : ByteArray
  /-- How many bytes lie before the head. -/
  pos : Nat := 0
  deriving Inhabited

namespace Reader

/-- The number of bytes in all. -/
def size (r : Reader) : Nat := r.data.size

/-- The reader whose head stands at `offset`, which must lie between the two ends. -/
def seek? (r : Reader) (offset : Int) : Option Reader :=
  if 0 ≤ offset ∧ offset ≤ r.size then some { r with pos := offset.toNat } else none

/-- The next `count` bytes, fewer at the end. -/
def read (r : Reader) (count : Int) : ByteArray × Reader :=
  let stop := min (r.pos + count.toNat) (max r.pos r.size)
  let block := r.data.extract r.pos stop
  (block, { r with pos := r.pos + block.size })

/-- The next `count` bytes, or none when fewer are left; the head moves either way. -/
def readExact (r : Reader) (count : Int) : Option ByteArray × Reader :=
  let (block, after) := r.read count
  (if (block.size : Int) = count then some block else none, after)

/-- Runs `inner` and puts the head back. -/
def aside {α : Type} (r : Reader) (inner : Reader → α × Reader) : α × Reader :=
  let (value, after) := inner r
  (value, { after with pos := r.pos })

/-- Exactly `count` bytes at `offset`, the head staying where it is. -/
def readAt (r : Reader) (offset count : Int) : Option ByteArray × Reader :=
  r.aside fun r =>
    match r.seek? offset with
    | none => (none, r)
    | some there => there.readExact count

/-- How many bytes a text is read by at a time. -/
def blockSize : Nat := 64

@[simp] theorem data_read (r : Reader) (count : Int) : (r.read count).2.data = r.data := rfl

theorem pos_read (r : Reader) (count : Int) :
    (r.read count).2.pos = r.pos + (r.read count).1.size := rfl

/-- A read from inside the byte string ends inside it. -/
theorem pos_read_le {r : Reader} (h : r.pos ≤ r.size) (count : Int) :
    (r.read count).2.pos ≤ r.size := by
  simp only [read, ByteArray.size_extract, size] at *
  omega

/-- An exact read that succeeds moves the head by what it read, which was there. -/
theorem readExact_eq_some {r after : Reader} {count : Int} {block : ByteArray}
    (h : r.readExact count = (some block, after)) :
    (block.size : Int) = count ∧ after.data = r.data ∧ after.pos = r.pos + block.size
      ∧ (0 < count → after.pos ≤ r.size) := by
  simp only [readExact, Prod.mk.injEq] at h
  obtain ⟨hb, rfl⟩ := h
  split at hb
  · next hs =>
    cases hb
    refine ⟨hs, rfl, rfl, fun hc => ?_⟩
    simp only [read, ByteArray.size_extract, size] at *
    omega
  · cases hb

/-- An exact read of at least one byte leaves less to read. -/
theorem left_lt_of_readExact {r after : Reader} {count : Int} {block : ByteArray}
    (h : r.readExact count = (some block, after)) (hc : 0 < count) :
    after.size - after.pos < r.size - r.pos := by
  obtain ⟨hs, hd, hp, hle⟩ := readExact_eq_some h
  have := hle hc
  simp only [size, hd] at *
  omega

/-- Reads block after block for a zero byte, `budget` bytes at most; `found` is what came before. -/
def readTextBlocks (r : Reader) (budget : Nat) (found : ByteArray) : Option String × Reader :=
  match _hb : budget with
  | 0 => (none, r)
  | left + 1 =>
    let got := r.read (min blockSize (left + 1))
    let block := got.1
    if _h : block.size = 0 then (none, got.2)
    else
      let stop := Bytes.zeroIndex block
      if stop < block.size then
        (some (Bytes.text (found ++ block.extract 0 stop)), { got.2 with pos := r.pos + stop + 1 })
      else got.2.readTextBlocks (left + 1 - block.size) (found ++ block)
  termination_by budget
  decreasing_by
    have : block.size = (r.read (min blockSize (left + 1))).1.size := rfl
    omega

/-- The text up to the next zero byte, when it has at most `maxLength` characters.  The head ends just
past the zero byte, or past everything that was looked at when no text is found. -/
def readText (r : Reader) (maxLength : Int) : Option String × Reader :=
  r.readTextBlocks (maxLength + 1).toNat .empty

/-- The text at `offset`, the head staying where it is. -/
def readTextAt (r : Reader) (offset maxLength : Int) : Option String × Reader :=
  r.aside fun r =>
    match r.seek? offset with
    | none => (none, r)
    | some there => there.readText maxLength

/-! ## Where the head ends -/

theorem data_readTextBlocks (r : Reader) (budget : Nat) (found : ByteArray) :
    (r.readTextBlocks budget found).2.data = r.data := by
  fun_induction readTextBlocks r budget found with
  | case1 => rfl
  | case2 => rfl
  | case3 => rfl
  | case4 _ _ _ _ _ _ _ _ ih => exact ih

@[simp] theorem data_readText (r : Reader) (maxLength : Int) :
    (r.readText maxLength).2.data = r.data := data_readTextBlocks ..

@[simp] theorem data_readExact (r : Reader) (count : Int) :
    (r.readExact count).2.data = r.data := rfl

theorem data_seek? {r there : Reader} {offset : Int} (h : r.seek? offset = some there) :
    there.data = r.data := by
  simp only [seek?] at h
  split at h <;> cases h
  rfl

theorem aside_fst {α : Type} (r : Reader) (inner : Reader → α × Reader) :
    (r.aside inner).1 = (inner r).1 := rfl

theorem aside_snd {α : Type} (r : Reader) (inner : Reader → α × Reader)
    (h : (inner r).2.data = r.data) : (r.aside inner).2 = r := by
  simp [aside, h]

@[simp] theorem readAt_snd (r : Reader) (offset count : Int) : (r.readAt offset count).2 = r := by
  apply aside_snd
  split
  · rfl
  · next there h => simp [data_seek? h]

@[simp] theorem readTextAt_snd (r : Reader) (offset maxLength : Int) :
    (r.readTextAt offset maxLength).2 = r := by
  apply aside_snd
  split
  · rfl
  · next there h => simp [data_seek? h]

end Reader

end ImageImports

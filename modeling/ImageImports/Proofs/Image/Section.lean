import ImageImports.Proofs.Image.Chunks
import ImageImports.Proofs.Import.Complete

/-!
# The directory of a laid out image stands complete

Every part of the section is found where the cursors of `Layout.place` say, so the
descriptors, the names and the tables of the libraries stand, and the directory stands
complete.  The libraries that it holds are those asked for, with the places that they were
given (`Layout.libraries`).

One induction runs over the symbols of a library and one over the libraries; both go along
with the cursors.

## Main results

* `Layout.entries_stand` — the symbols of a library stand in front of a zero.
* `Layout.directoryStands` — the directory stands complete.
-/

namespace ImageImports.Layout

open Import (Width Entry Descriptor Library)
open Bytes (Holds)

/-! ## What can be laid out -/

/-- A symbol that can be laid out and is read under the default limits. -/
def Symbol.Fits (width : Width) : Symbol → Prop
  | .named name => Writable name ∧ name.length ≤ 4096
  | .numbered ordinal => ordinal < 2 ^ (width.bits - 1)

instance (width : Width) : (s : Symbol) → Decidable (s.Fits width)
  | .named name => inferInstanceAs (Decidable (Writable name ∧ name.length ≤ 4096))
  | .numbered ordinal => inferInstanceAs (Decidable (ordinal < 2 ^ (width.bits - 1)))

/-- A library that can be laid out and is read under the default limits. -/
structure Plan.Fits (width : Width) (p : Plan) : Prop where
  writable : Writable p.name
  short : p.name.length ≤ 4096
  few : p.symbols.length ≤ 10000
  symbols : ∀ s ∈ p.symbols, s.Fits width

instance (width : Width) (p : Plan) : Decidable (p.Fits width) :=
  decidable_of_iff (Writable p.name ∧ p.name.length ≤ 4096 ∧ p.symbols.length ≤ 10000
      ∧ ∀ s ∈ p.symbols, s.Fits width)
    ⟨fun ⟨writable, short, few, symbols⟩ => ⟨writable, short, few, symbols⟩,
      fun h => ⟨h.writable, h.short, h.few, h.symbols⟩⟩

/-- Libraries that can be laid out and are read under the default limits: no address of
the section needs more than 31 bits. -/
structure Fit (width : Width) (plans : List Plan) : Prop where
  few : plans.length ≤ 1000
  fits : ∀ p ∈ plans, p.Fits width
  small : sectionRva + (content width plans).length ≤ 2 ^ 31

instance (width : Width) (plans : List Plan) : Decidable (Fit width plans) :=
  decidable_of_iff (plans.length ≤ 1000 ∧ (∀ p ∈ plans, p.Fits width)
      ∧ sectionRva + (content width plans).length ≤ 2 ^ 31)
    ⟨fun ⟨few, fits, small⟩ => ⟨few, fits, small⟩, fun h => ⟨h.few, h.fits, h.small⟩⟩

/-! ## What is read -/

/-- The symbol number `i`, whose hint and name are at `place` if it has them. -/
def entry (width : Width) (place i : Nat) : Symbol → Entry
  | .named name =>
    { raw := (sectionRva + place : Nat), payload := (sectionRva + place : Nat),
      hint := some i, name }
  | .numbered ordinal =>
    { raw := (2 ^ (width.bits - 1) + ordinal : Nat), isOrdinal := true,
      payload := ordinal }

/-- The symbols from number `i` on, whose hints and names begin at `place`. -/
def entries (width : Width) (place i : Nat) : List Symbol → List Entry
  | [] => []
  | s :: rest =>
    entry width place i s :: entries width (place + (hintChunk i s).length) (i + 1) rest

/-- The library at its places. -/
def Placed.library (width : Width) (q : Placed) : Library where
  descriptor :=
    { originalFirstThunk := (if q.plan.hasLookup then sectionRva + q.tableAt else 0 : Nat)
      nameRva := (sectionRva + q.nameAt : Nat)
      firstThunk := (sectionRva + (q.tableAt + (q.table width).length) : Nat)
      name := q.plan.name }
  entries := entries width q.hintsAt 0 q.plan.symbols

/-- The libraries that a laid out image holds. -/
def libraries (width : Width) (plans : List Plan) : List Library :=
  (placed width plans).map (·.library width)

@[simp] theorem length_entries (width : Width) (place i : Nat) (symbols : List Symbol) :
    (entries width place i symbols).length = symbols.length := by
  induction symbols generalizing place i with
  | nil => rfl
  | cons s rest ih => rw [entries, List.length_cons, ih, List.length_cons]

/-! ## An image in memory -/

/-- The section's data stands in the file behind the headers, and its addresses lead
there. -/
structure Loaded (ctx : Import.Context) (rawSize : Nat) : Prop where
  limits : ctx.limits = {}
  offset : ∀ pos < rawSize,
    ctx.sections.toOffset? (sectionRva + pos : Nat) = some (fileUnit + pos : Nat)
  rawEnd : ∀ pos < rawSize,
    ctx.sections.rawEndAt? (sectionRva + pos : Nat) = some (fileUnit + rawSize : Nat)

variable {ctx : Import.Context} {bytes : ByteArray} {rawSize : Nat}

/-! ## Symbols -/

theorem table_cons (width : Width) (value : Nat) (rest : List Nat) :
    table width (value :: rest) = digits width.bytes value ++ table width rest := by
  rw [table, List.cons_append, List.flatMap_cons, table]

theorem length_table (width : Width) (values : List Nat) :
    (table width values).length = width.bytes * (values.length + 1) := by
  induction values with
  | nil => simp [table]
  | cons value rest ih =>
    rw [table_cons, List.length_append, Bytes.length_digits, ih, List.length_cons,
      Nat.mul_succ _ (_ + 1)]
    omega

@[simp] theorem length_thunks (width : Width) (place i : Nat) (symbols : List Symbol) :
    (thunks width place i symbols).length = symbols.length := by
  induction symbols generalizing place i with
  | nil => rfl
  | cons s rest ih => rw [thunks, List.length_cons, ih, List.length_cons]

/-- A number below the top bit, with the top bit set. -/
theorem thunk_numbered (width : Width) (place : Nat) {ordinal : Nat}
    (h : ordinal < 2 ^ (width.bits - 1)) :
    thunk width place (.numbered ordinal) = 2 ^ (width.bits - 1) + ordinal := by
  rw [thunk, ← Nat.shiftLeft_add_eq_or_of_lt h, Nat.one_shiftLeft]

theorem pow_bytes (width : Width) : 256 ^ width.bytes = 2 * 2 ^ (width.bits - 1) := by
  cases width <;> decide

theorem pow_31_le (width : Width) : 2 ^ 31 ≤ 2 ^ (width.bits - 1) := by
  cases width <;> decide

/-- A symbol by ordinal stands where its thunk was put. -/
theorem numbered_stands {offset place i ordinal : Nat}
    (hs : (Symbol.numbered ordinal).Fits ctx.width)
    (hthunk : Holds bytes offset
      (digits ctx.width.bytes (thunk ctx.width place (.numbered ordinal)))) :
    ctx.EntryStandsAt bytes offset (entry ctx.width place i (.numbered ordinal)) := by
  have hlt : ordinal < 2 ^ (ctx.width.bits - 1) := hs
  rw [thunk_numbered _ _ hlt] at hthunk
  have hfits : 2 ^ (ctx.width.bits - 1) + ordinal < 256 ^ ctx.width.bytes := by
    rw [pow_bytes]
    omega
  have hpos := Nat.two_pow_pos (ctx.width.bits - 1)
  have hcast : ((2 ^ (ctx.width.bits - 1) + ordinal : Nat) : Int) =
      2 ^ (ctx.width.bits - 1) + ordinal := by
    push_cast
    rfl
  exact
    { raw := hthunk.number? ctx.width_pos hfits
      raw_ne_zero := by
        show ((2 ^ (ctx.width.bits - 1) + ordinal : Nat) : Int) ≠ 0
        omega
      isOrdinal := by
        show true = true ↔ (2 : Int) ^ (ctx.width.bits - 1) ≤
          ((2 ^ (ctx.width.bits - 1) + ordinal : Nat) : Int)
        rw [hcast]
        exact iff_of_true rfl (Int.le_add_of_nonneg_right (Int.natCast_nonneg ordinal))
      payload := by
        show (ordinal : Int) =
          ((2 ^ (ctx.width.bits - 1) + ordinal : Nat) : Int) % 2 ^ (ctx.width.bits - 1)
        have hmod : (2 ^ (ctx.width.bits - 1) + ordinal) % 2 ^ (ctx.width.bits - 1) =
            ordinal := by
          rw [Nat.add_mod_left, Nat.mod_eq_of_lt hlt]
        have hgoal : (ordinal : Int) =
            (((2 ^ (ctx.width.bits - 1) + ordinal) % 2 ^
              (ctx.width.bits - 1) : Nat) : Int) := by
          rw [hmod]
        rw [hgoal]
        push_cast
        rfl
      byOrdinal := fun _ => ⟨rfl, rfl⟩
      byName := fun h => by cases h }

/-- A symbol by name stands where its thunk was put. -/
theorem named_stands {offset place i : Nat} {name : String} (hload : Loaded ctx rawSize)
    (hs : Writable name) (hi : i < 65536)
    (hhint : Holds bytes (fileUnit + place) (digits 2 i ++ terminated name))
    (hin : place < rawSize) (hsmall : sectionRva + place < 2 ^ 31)
    (hthunk : Holds bytes offset (digits ctx.width.bytes (sectionRva + place))) :
    ctx.EntryStandsAt bytes offset (entry ctx.width place i (.named name)) := by
  have hwide := pow_31_le ctx.width
  have hfits : sectionRva + place < 256 ^ ctx.width.bytes := by
    rw [pow_bytes]
    omega
  have hmod (k : Nat) (hk : sectionRva + place < 2 ^ k) :
      ((sectionRva + place : Nat) : Int) % 2 ^ k = (sectionRva + place : Nat) := by
    have hcast : (((sectionRva + place) % 2 ^ k : Nat) : Int) =
        (sectionRva + place : Nat) := by
      rw [Nat.mod_eq_of_lt hk]
    rw [← hcast]
    push_cast
    simp
  have hplace : ((fileUnit + place : Nat) : Int) + 2 = (fileUnit + place + 2 : Nat) := rfl
  exact
    { raw := hthunk.number? ctx.width_pos hfits
      raw_ne_zero := by
        show ((sectionRva + place : Nat) : Int) ≠ 0
        simp only [sectionRva]
        omega
      isOrdinal := by
        show false = true ↔ (2 : Int) ^ (ctx.width.bits - 1) ≤
            ((sectionRva + place : Nat) : Int)
        have hlow : ¬ (2 : Int) ^ (ctx.width.bits - 1) ≤
            ((sectionRva + place : Nat) : Int) := by
          have hlow : ¬ 2 ^ (ctx.width.bits - 1) ≤ sectionRva + place := by omega
          exact_mod_cast hlow
        exact iff_of_false Bool.false_ne_true hlow
      payload := (hmod _ (by omega)).symm
      byOrdinal := fun h => by cases h
      byName := fun _ => by
        refine ⟨_, i, ?_, hhint.left.number? (by decide) hi, rfl, ?_⟩
        · show ctx.sections.toOffset? (((sectionRva + place : Nat) : Int) % 2 ^ 31) = _
          rw [hmod 31 hsmall]
          exact hload.offset place hin
        · rw [hplace]
          have htext := hhint.right
          rw [Bytes.length_digits] at htext
          exact htext.textAt? hs }

/-- A symbol stands where its thunk was put. -/
theorem entry_stands {offset place i : Nat} {s : Symbol} (hload : Loaded ctx rawSize)
    (hs : s.Fits ctx.width) (hi : i < 65536)
    (hhint : Holds bytes (fileUnit + place) (hintChunk i s))
    (hin : place + (hintChunk i s).length ≤ rawSize)
    (hsmall : sectionRva + (place + (hintChunk i s).length) ≤ 2 ^ 31)
    (hthunk : Holds bytes offset (digits ctx.width.bytes (thunk ctx.width place s))) :
    ctx.EntryStandsAt bytes offset (entry ctx.width place i s) := by
  cases s with
  | numbered ordinal => exact numbered_stands hs hthunk
  | named name =>
    have hlong : 0 < (hintChunk i (.named name)).length := by
      rw [hintChunk, padded, List.length_append, List.length_append, Bytes.length_digits]
      omega
    exact named_stands hload hs.1 hi hhint.left (by omega) (by omega) hthunk

/-- No symbol has a longer name than it was asked for with. -/
theorem entries_short {width : Width} {symbols : List Symbol} {place i : Nat}
    (hs : ∀ s ∈ symbols, s.Fits width) :
    ∀ e ∈ entries width place i symbols, e.isOrdinal = false →
      (e.name.length : Int) ≤ 4096 := by
  induction symbols generalizing place i with
  | nil =>
    intro e he
    cases he
  | cons s rest ih =>
    intro e he hname
    rcases List.mem_cons.1 he with rfl | he
    · have hfits := hs s List.mem_cons_self
      cases s with
      | numbered ordinal => cases hname
      | named name => exact_mod_cast hfits.2
    · exact ih (fun t ht => hs t (List.mem_cons_of_mem s ht)) e he hname

/-- The symbols of a library stand one thunk apart, in front of a zero. -/
theorem entries_stand {symbols : List Symbol} (hload : Loaded ctx rawSize)
    {offset place i : Nat}
    (hs : ∀ s ∈ symbols, s.Fits ctx.width) (hi : i + symbols.length ≤ 65536)
    (hhints : Holds bytes (fileUnit + place) (hintChunks i symbols))
    (hin : place + (hintChunks i symbols).length ≤ rawSize)
    (hsmall : sectionRva + (place + (hintChunks i symbols).length) ≤ 2 ^ 31)
    (htable : Holds bytes offset (table ctx.width (thunks ctx.width place i symbols))) :
    (∀ (j : Nat) e, (entries ctx.width place i symbols)[j]? = some e →
        ctx.EntryStandsAt bytes (offset + ctx.width.bytes * j : Nat) e)
      ∧ Bytes.number? bytes (offset + ctx.width.bytes * symbols.length : Nat)
        ctx.width.bytes =
        some 0 := by
  -- The thunks and the hints are two arrays; their places move on together, one symbol a step.
  induction symbols generalizing offset place i with
  | nil =>
    constructor
    · intro j e he
      cases he
    · have hzero : Holds bytes offset (digits ctx.width.bytes 0 ++ []) := htable
      rw [List.length_nil, Nat.mul_zero, Nat.add_zero]
      exact hzero.left.number? ctx.width_pos (Nat.pow_pos (by decide))
  | cons s rest ih =>
    rw [thunks, table_cons] at htable
    rw [hintChunks] at hhints
    rw [hintChunks, List.length_append, ← Nat.add_assoc place] at hin hsmall
    rw [List.length_cons] at hi
    have hrestHints := hhints.right
    rw [Nat.add_assoc] at hrestHints
    have hrestTable := htable.right
    rw [Bytes.length_digits] at hrestTable
    have hrest := ih (fun t ht => hs t (List.mem_cons_of_mem s ht))
      (by omega) hrestHints hin
      hsmall hrestTable
    constructor
    · intro j e he
      cases j with
      | zero =>
        rw [entries, List.getElem?_cons_zero] at he
        injection he with he
        subst he
        exact entry_stands hload (hs s List.mem_cons_self)
          (by omega) hhints.left (by omega)
          (by omega) htable.left
      | succ j =>
        rw [entries, List.getElem?_cons_succ] at he
        have hstands := hrest.1 j e he
        rwa [Import.place_succ] at hstands
    · have hzero := hrest.2
      rwa [Import.place_succ] at hzero

/-! ## Libraries -/

/-- The parts of a library are held at its places, and lie in the first `size` bytes of
the section; its tables lie behind the first `arrayEnd` bytes. -/
structure Placed.Stands (width : Width) (bytes : ByteArray) (arrayEnd size index : Nat)
    (q : Placed) : Prop where
  descriptor : Holds bytes (fileUnit + 20 * index) (q.descriptor width)
  name : Holds bytes (fileUnit + q.nameAt) (nameChunk q.plan)
  nameEnd : q.nameAt + (nameChunk q.plan).length ≤ size
  hints : Holds bytes (fileUnit + q.hintsAt) (hintChunks 0 q.plan.symbols)
  hintsEnd : q.hintsAt + (hintChunks 0 q.plan.symbols).length ≤ size
  tables : Holds bytes (fileUnit + q.tableAt) (q.tables width)
  tablesEnd : q.tableAt + (q.tables width).length ≤ size
  tableStart : arrayEnd ≤ q.tableAt

theorem length_descriptor (width : Width) (q : Placed) :
    (q.descriptor width).length = 20 := by
  simp [Placed.descriptor]

/-- The cursors keep up with the parts: whatever stands one behind the other stands at its
place. -/
theorem place_stands {width : Width} {plans : List Plan}
    {arrayEnd size namesFrom hintsFrom tablesFrom index : Nat}
    (hdescriptors : Holds bytes (fileUnit + 20 * index)
      ((place width namesFrom hintsFrom tablesFrom plans).flatMap (·.descriptor width)))
    (hnames : Holds bytes (fileUnit + namesFrom) (names plans))
    (hnamesEnd : namesFrom + (names plans).length ≤ size)
    (hhints : Holds bytes (fileUnit + hintsFrom) (hints plans))
    (hhintsEnd : hintsFrom + (hints plans).length ≤ size)
    (htables : Holds bytes (fileUnit + tablesFrom)
      ((place width namesFrom hintsFrom tablesFrom plans).flatMap (·.tables width)))
    (htablesEnd : tablesFrom +
      ((place width namesFrom hintsFrom tablesFrom plans).flatMap
        (·.tables width)).length ≤ size)
    (hstart : arrayEnd ≤ tablesFrom) {i : Nat} {q : Placed}
    (hq : (place width namesFrom hintsFrom tablesFrom plans)[i]? = some q) :
    q.Stands width bytes arrayEnd size (index + i) := by
  -- Each library takes the front of every part, and the cursors move on to what is left.
  induction plans generalizing namesFrom hintsFrom tablesFrom index i with
  | nil => cases hq
  | cons p rest ih =>
    rw [place, List.flatMap_cons] at hdescriptors htables htablesEnd
    rw [names, List.flatMap_cons] at hnames hnamesEnd
    rw [hints, List.flatMap_cons] at hhints hhintsEnd
    rw [List.length_append] at hnamesEnd hhintsEnd htablesEnd
    cases i with
    | zero =>
      rw [place, List.getElem?_cons_zero] at hq
      injection hq with hq
      subst hq
      exact
        { descriptor := hdescriptors.left
          name := hnames.left
          nameEnd := by
            show namesFrom + (nameChunk p).length ≤ size
            omega
          hints := hhints.left
          hintsEnd := by
            show hintsFrom + (hintChunks 0 p.symbols).length ≤ size
            omega
          tables := htables.left
          tablesEnd := by
            show tablesFrom + _ ≤ size
            omega
          tableStart := hstart }
    | succ i =>
      rw [place, List.getElem?_cons_succ] at hq
      have hd := hdescriptors.right
      rw [length_descriptor, Nat.add_assoc, ← Nat.mul_succ] at hd
      have hn := hnames.right
      rw [Nat.add_assoc] at hn
      have hh := hhints.right
      rw [Nat.add_assoc] at hh
      have ht := htables.right
      rw [Nat.add_assoc] at ht
      have hrest := ih hd hn
        (by rw [names]; omega) hh (by rw [hints]; omega) ht (by omega)
        (by omega) hq
      rwa [Nat.succ_add_eq_add_succ] at hrest

namespace Placed

/-- Where the table is that the descriptor of a library leads to. -/
def lookupAt (width : Width) (q : Placed) : Nat :=
  if q.plan.hasLookup then q.tableAt else q.tableAt + (q.table width).length

variable {width : Width} {arrayEnd size index count : Nat} {q : Placed}

theorem lookupRva_library (width : Width) (q : Placed) :
    (q.library width).descriptor.lookupRva = (sectionRva + q.lookupAt width : Nat) := by
  have hne : ((sectionRva + q.tableAt : Nat) : Int) ≠ 0 := by
    simp only [sectionRva]
    omega
  cases hlookup : q.plan.hasLookup with
  | true =>
    simp only [Descriptor.lookupRva, library, lookupAt, hlookup, if_true]
    rw [if_neg hne]
  | false => simp [Descriptor.lookupRva, library, lookupAt, hlookup]

/-- Either table of a library is the table that its descriptor may lead to. -/
theorem Stands.lookup (h : q.Stands width bytes arrayEnd size index) :
    Holds bytes (fileUnit + q.lookupAt width) (q.table width)
      ∧ q.lookupAt width + (q.table width).length ≤ size
      ∧ arrayEnd ≤ q.lookupAt width := by
  have htables := h.tables
  have hend := h.tablesEnd
  have hstart := h.tableStart
  rw [Placed.tables] at htables hend
  rw [List.length_append] at hend
  simp only [lookupAt]
  split
  · exact ⟨htables.left, by omega, hstart⟩
  · have hright := htables.right
    rw [Nat.add_assoc] at hright
    exact ⟨hright, by omega, by omega⟩

/-- The fields of a descriptor stand where it was put. -/
theorem Stands.fields (h : q.Stands width bytes arrayEnd size index)
    (hsmall : sectionRva + size ≤ 2 ^ 31) :
    Import.Context.FieldsAt bytes (fileUnit + 20 * index : Nat)
      (q.library width).descriptor := by
  have hd := h.descriptor
  have hname := h.nameEnd
  have htables := h.tablesEnd
  rw [Placed.tables, List.length_append] at htables
  simp only [Placed.descriptor, Bytes.holds_record_cons] at hd
  obtain ⟨h0, h4, h8, h12, h16, -⟩ := hd
  have hpow : 2 ^ 31 < 256 ^ 4 := by decide
  exact
    { originalFirstThunk := h0.number? (by decide) (by split <;> omega)
      timeDateStamp := h4.number? (by decide) (by decide)
      forwarderChain := h8.number? (by decide) (by decide)
      nameRva := h12.number? (by decide) (by omega)
      firstThunk := h16.number? (by decide) (by omega) }

/-- A library's descriptor stands where it was put. -/
theorem Stands.descriptorStands (h : q.Stands ctx.width bytes arrayEnd size index)
    (hload : Loaded ctx rawSize) (hraw : size ≤ rawSize)
    (hsmall : sectionRva + size ≤ 2 ^ 31) (hname : Writable q.plan.name) :
    ctx.DescriptorStandsAt bytes (fileUnit + 20 * index : Nat)
      (q.library ctx.width).descriptor where
  fields := h.fields hsmall
  tables := by
    rintro ⟨-, hzero⟩
    have hne : ((sectionRva + (q.tableAt + (q.table ctx.width).length) : Nat) : Int) =
        0 := hzero
    simp only [sectionRva] at hne
    omega
  name := by
    have hend := h.nameEnd
    rw [nameChunk, padded, List.length_append, Bytes.length_terminated] at hend
    exact ⟨_, .inl (hload.offset q.nameAt (by omega)), h.name.left.textAt? hname⟩

/-- A library's lookup table stands complete where it was put. -/
theorem Stands.tableStands (h : q.Stands ctx.width bytes (20 * (count + 1)) size index)
    (hload : Loaded ctx rawSize) (hraw : size ≤ rawSize)
    (hsmall : sectionRva + size ≤ 2 ^ 31)
    (hfits : q.plan.Fits ctx.width) {location : DataDirectory.Location}
    (hlocation : location.offset = (fileUnit : Nat)) :
    ctx.TableStands bytes location count (q.library ctx.width)
      (fileUnit + q.lookupAt ctx.width) := by
  obtain ⟨htable, hend, hstart⟩ := h.lookup
  have hhints := h.hintsEnd
  have hlen : (q.table ctx.width).length =
      ctx.width.bytes * (q.plan.symbols.length + 1) := by
    rw [Placed.table, length_table, length_thunks]
  have hpos := ctx.width_pos
  have hmul : ctx.width.bytes ≤ ctx.width.bytes * (q.plan.symbols.length + 1) :=
    Nat.le_mul_of_pos_right _ (Nat.succ_pos _)
  have hin : q.lookupAt ctx.width < rawSize := by omega
  have hfew := hfits.few
  obtain ⟨hentries, hzero⟩ :=
    entries_stand hload hfits.symbols (by omega) h.hints (by omega)
    (by omega) htable
  have hentriesLen : (q.library ctx.width).entries.length = q.plan.symbols.length :=
    length_entries ..
  exact
    { place := by
        rw [lookupRva_library]
        exact hload.offset _ hin
      outside := by
        rw [hlocation]
        simp only [Descriptor.recordSize]
        omega
      inside := by
        intro tableEnd htableEnd
        rw [lookupRva_library, hload.rawEnd _ hin] at htableEnd
        injection htableEnd with htableEnd
        rw [hentriesLen, ← htableEnd]
        have hbound : fileUnit + q.lookupAt ctx.width +
            ctx.width.bytes * (q.plan.symbols.length + 1) ≤ fileUnit + rawSize := by omega
        exact_mod_cast hbound
      entry := by
        intro j e he
        have hstands := hentries j e he
        rwa [Int.natCast_add, Int.natCast_mul] at hstands
      last := by
        rw [hentriesLen]
        rwa [Int.natCast_add, Int.natCast_mul] at hzero
      short := by
        rw [hload.limits]
        exact entries_short hfits.symbols
      few := by
        rw [hload.limits, hentriesLen]
        show (q.plan.symbols.length : Int) ≤ 10000
        omega }

end Placed

/-! ## The whole directory -/

theorem plans_place (width : Width) (namesFrom hintsFrom tablesFrom : Nat)
    (plans : List Plan) :
    (place width namesFrom hintsFrom tablesFrom plans).map (·.plan) = plans := by
  induction plans generalizing namesFrom hintsFrom tablesFrom with
  | nil => rfl
  | cons p rest ih => rw [place, List.map_cons, ih]

theorem length_placed (width : Width) (plans : List Plan) :
    (placed width plans).length = plans.length := by
  have hplans := congrArg List.length (plans_place width (arraySize plans) (hintsAt plans)
    (tablesAt plans) plans)
  rwa [List.length_map] at hplans

theorem plan_mem_of_mem_placed {width : Width} {plans : List Plan} {q : Placed}
    (h : q ∈ placed width plans) : q.plan ∈ plans := by
  have hmem := List.mem_map_of_mem (f := (·.plan)) h
  rwa [placed, plans_place] at hmem

theorem length_descriptors (width : Width) (qs : List Placed) :
    (qs.flatMap (·.descriptor width)).length = 20 * qs.length := by
  induction qs with
  | nil => rfl
  | cons q rest ih =>
    rw [List.flatMap_cons, List.length_append, length_descriptor, ih, List.length_cons]
    omega

/-- Twenty zeros are a record without tables. -/
theorem fieldsAt_zeros {offset : Nat} (h : Holds bytes offset (List.replicate 20 0)) :
    Import.Context.FieldsAt bytes offset {} := by
  have hzeros : List.replicate 20 (0 : UInt8) =
      record [(0, 4), (0, 4), (0, 4), (0, 4), (0, 4)] := by
    decide
  rw [hzeros] at h
  simp only [Bytes.holds_record_cons] at h
  obtain ⟨h0, h4, h8, h12, h16, -⟩ := h
  exact
    { originalFirstThunk := h0.number? (by decide) (by decide)
      timeDateStamp := h4.number? (by decide) (by decide)
      forwarderChain := h8.number? (by decide) (by decide)
      nameRva := h12.number? (by decide) (by decide)
      firstThunk := h16.number? (by decide) (by decide) }

/-- The parts of the section, each at its place. -/
theorem parts_of_content {width : Width} {plans : List Plan}
    (h : Holds bytes fileUnit (content width plans)) :
    Holds bytes fileUnit ((placed width plans).flatMap (·.descriptor width))
      ∧ Holds bytes (fileUnit + 20 * plans.length) (List.replicate 20 0)
      ∧ Holds bytes (fileUnit + arraySize plans) (names plans)
      ∧ Holds bytes (fileUnit + hintsAt plans) (hints plans)
      ∧ Holds bytes (fileUnit + tablesAt plans)
        ((placed width plans).flatMap (·.tables width)) := by
  simp only [content, Bytes.holds_append_iff, List.length_append, length_descriptors,
    length_placed, List.length_replicate] at h
  obtain ⟨⟨⟨⟨⟨hdescriptors, hzeros⟩, hnames⟩, hhints⟩, -⟩, htables⟩ := h
  have harray : 20 * plans.length + 20 = arraySize plans := by
    rw [arraySize]
    omega
  rw [harray] at hnames hhints htables
  exact ⟨hdescriptors, hzeros, hnames, hhints, htables⟩

theorem length_content (width : Width) (plans : List Plan) :
    (content width plans).length =
      tablesAt plans + ((placed width plans).flatMap (·.tables width)).length := by
  simp only [content, List.length_append, length_descriptors, length_placed,
    List.length_replicate, tablesAt, hintsEnd, hintsAt, arraySize]
  omega

/-- The descriptor array is a part of the section. -/
theorem arraySize_le_length_content (width : Width) (plans : List Plan) :
    arraySize plans ≤ (content width plans).length := by
  rw [length_content, tablesAt, hintsEnd, hintsAt]
  omega

/-- Every library is held at its places. -/
theorem placed_stands {width : Width} {plans : List Plan}
    (h : Holds bytes fileUnit (content width plans)) {i : Nat} {q : Placed}
    (hq : (placed width plans)[i]? = some q) :
    q.Stands width bytes (20 * (plans.length + 1)) (content width plans).length i := by
  obtain ⟨hdescriptors, -, hnames, hhints, htables⟩ := parts_of_content h
  have hlen := length_content width plans
  have htablesAt : tablesAt plans = hintsEnd plans + fill 8 (hintsEnd plans) := rfl
  have hhintsEnd : hintsEnd plans = hintsAt plans + (hints plans).length := rfl
  have hhintsAt : hintsAt plans = arraySize plans + (names plans).length := rfl
  have harray : arraySize plans = (plans.length + 1) * 20 := rfl
  have hend : tablesAt plans + ((placed width plans).flatMap (·.tables width)).length ≤
      (content width plans).length := Nat.le_of_eq hlen.symm
  have hstands : q.Stands width bytes (20 * (plans.length + 1))
      (content width plans).length (0 + i) :=
    place_stands hdescriptors hnames
      (by omega) hhints (by omega) htables hend (by omega) hq
  rwa [Nat.zero_add] at hstands

/-- **The directory stands complete**: where the section's data stands behind the headers,
the libraries that were laid out stand in front of a record of zeros. -/
theorem directoryStands {plans : List Plan} (hfit : Fit ctx.width plans)
    (hload : Loaded ctx rawSize) (hraw : (content ctx.width plans).length ≤ rawSize)
    (h : Holds bytes fileUnit (content ctx.width plans))
    {location : DataDirectory.Location} (hoffset : location.offset = (fileUnit : Nat))
    (hrva : location.rva = (sectionRva : Nat)) :
    ctx.DirectoryStands bytes location (libraries ctx.width plans) := by
  have hlen : (libraries ctx.width plans).length = plans.length := by
    rw [libraries, List.length_map, length_placed]
  have hlibrary {l : Library} (hl : l ∈ libraries ctx.width plans) :
      ∃ (i : Nat) (q : Placed),
        q.Stands ctx.width bytes (20 * (plans.length + 1))
          (content ctx.width plans).length i
        ∧ q.plan ∈ plans ∧ q.library ctx.width = l := by
    obtain ⟨q, hq, rfl⟩ := List.mem_map.1 hl
    obtain ⟨i, hi⟩ := List.mem_iff_getElem?.1 hq
    exact ⟨i, q, placed_stands h hi, plan_mem_of_mem_placed hq, rfl⟩
  exact
    { whole := by
        rw [hload.limits]
        rfl
      nonneg := by
        rw [hoffset]
        exact Int.natCast_nonneg _
      descriptors := by
        intro i l hl
        rw [libraries, List.getElem?_map] at hl
        obtain ⟨q, hq, rfl⟩ := Option.map_eq_some_iff.1 hl
        have hfits := hfit.fits q.plan (plan_mem_of_mem_placed (List.mem_of_getElem? hq))
        have hstands := (placed_stands h hq).descriptorStands hload hraw hfit.small
          hfits.writable
        rw [hoffset]
        exact_mod_cast hstands
      last := by
        refine ⟨{}, ?_, rfl, rfl⟩
        have hzeros := fieldsAt_zeros (parts_of_content h).2.1
        rw [hoffset, hlen]
        exact_mod_cast hzeros
      inside := by
        intro tableEnd hend
        have harray := arraySize_le_length_content ctx.width plans
        rw [arraySize] at harray
        have hraw0 := hload.rawEnd 0 (by omega)
        rw [Nat.add_zero, ← hrva, hend] at hraw0
        injection hraw0 with hraw0
        have hbound : fileUnit + 20 * (plans.length + 1) ≤ fileUnit + rawSize := by omega
        rw [hraw0, hoffset, hlen]
        exact_mod_cast hbound
      short := by
        intro l hl
        obtain ⟨i, q, -, hq, rfl⟩ := hlibrary hl
        rw [hload.limits]
        have hshort := (hfit.fits q.plan hq).short
        show (q.plan.name.length : Int) ≤ 4096
        omega
      few := by
        rw [hload.limits, hlen]
        have hfew := hfit.few
        show (plans.length : Int) ≤ 1000
        omega
      tables := by
        intro l hl
        obtain ⟨i, q, hq, hmem, rfl⟩ := hlibrary hl
        rw [hlen]
        exact ⟨_, hq.tableStands hload hraw hfit.small (hfit.fits q.plan hmem) hoffset⟩ }

end ImageImports.Layout

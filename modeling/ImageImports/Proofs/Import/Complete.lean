import ImageImports.Proofs.Import.Contents

/-!
# What stands in the file is read

The other direction of `read_stands`.  A directory *stands complete* when its descriptors
stand in front of a record without tables, when the symbols of every library stand in
front of a zero, and when nothing of it goes past its section or the limits.  Such a
directory is read to its end, and its table holds exactly those libraries.

Each loop is the run of its step, and a step has one run at most.  So it is enough that
the step accepts what stands, one record at a time.

## Main results

* `Context.descriptorAt_of_stands`, `Context.entryAt_of_stands` — the steps accept what
  stands.
* `Context.readAt_of_directoryStands` — a directory that stands complete is read to its
  end.
-/

namespace ImageImports.Import.Context

variable (ctx : Context) (bytes : ByteArray)

/-! ## The steps accept what stands -/

theorem runsPast_eq_false {tableEnd? : Option Int} {stop : Int}
    (h : ∀ tableEnd, tableEnd? = some tableEnd → stop ≤ tableEnd) :
    runsPast tableEnd? stop = false := by
  cases tableEnd? with
  | none => rfl
  | some tableEnd =>
    have hle := h tableEnd rfl
    simp only [runsPast, decide_eq_false_iff_not]
    omega

/-- What stands in twenty bytes is what they decode to. -/
theorem decode_of_fieldsAt {offset : Nat} {d : Descriptor} (h : FieldsAt bytes offset d) :
    ∃ record, Bytes.run? bytes offset Descriptor.recordSize = some record
      ∧ Descriptor.decode record = { d with name := "" } := by
  obtain ⟨last, hlast, -⟩ := Option.map_eq_some_iff.1 h.firstThunk
  obtain ⟨-, hle, -⟩ := Bytes.run?_eq_some_iff.1 hlast
  have hin : (offset : Int) + (Descriptor.recordSize : Nat) ≤ bytes.size := by
    simp only [Descriptor.recordSize]
    omega
  have hrecord := Bytes.run?_eq_some_iff.2 ⟨Int.natCast_nonneg offset, hin, rfl⟩
  exact ⟨_, hrecord, (fieldsAt_decode bytes hrecord).unique bytes h⟩

/-- A name that stands and is no longer than the limit is read. -/
theorem nameIn_of_textAt? {d : Descriptor} {place : Int} {name : String}
    (hwhole : ctx.limits.maxTextLength.kind = .whole) (hplace : ctx.NamePlace d place)
    (htext : Bytes.textAt? bytes place = some name)
    (hshort : (name.length : Int) ≤ ctx.limits.maxTextLength.bound) :
    ctx.nameIn bytes d = .ok (some name) := by
  have hoffset := ctx.nameOffset?_eq_some_iff.2 hplace
  simp only [nameIn, libraryName, hoffset]
  rw [Limit.readTextAt_of_whole hwhole, htext, Option.filter_some,
    if_pos (by simpa using hshort)]

/-- The first step accepts a descriptor that stands. -/
theorem descriptorAt_of_stands {tableEnd? : Option Int} {offset count : Nat}
    {d : Descriptor} (hwhole : ctx.limits.maxTextLength.kind = .whole)
    (hpast : runsPast tableEnd? (offset + Descriptor.recordSize) = false)
    (h : ctx.DescriptorStandsAt bytes offset d)
    (hshort : (d.name.length : Int) ≤ ctx.limits.maxTextLength.bound)
    (hfew : (count : Int) < ctx.limits.maxLibraries.bound) :
    ctx.descriptorAt bytes tableEnd? offset count = .ok d := by
  obtain ⟨record, hrecord, hdecode⟩ := decode_of_fieldsAt bytes h.fields
  obtain ⟨place, hplace, htext⟩ := h.name
  have hsentinel : ¬ (Descriptor.decode record).isSentinel = true := by
    rw [hdecode, isSentinel_iff]
    exact h.tables
  have hname : ctx.nameIn bytes (Descriptor.decode record) = .ok (some d.name) := by
    rw [hdecode]
    exact ctx.nameIn_of_textAt? bytes hwhole hplace htext hshort
  have hlimit : ¬ ctx.limits.maxLibraries.reachedBy count = true := by
    simp only [Limit.reachedBy, decide_eq_true_eq]
    omega
  rw [(DescriptorStep.accepted ⟨hpast, hrecord⟩ hsentinel hname hlimit).eq, hdecode]

/-- The first step ends at a record without tables. -/
theorem descriptorAt_of_zero {tableEnd? : Option Int} {offset count : Nat}
    {d : Descriptor} (hpast : runsPast tableEnd? (offset + Descriptor.recordSize) = false)
    (h : FieldsAt bytes offset d) (hzero : d.originalFirstThunk = 0 ∧ d.firstThunk = 0) :
    ctx.descriptorAt bytes tableEnd? offset count = .error .complete := by
  obtain ⟨record, hrecord, hdecode⟩ := decode_of_fieldsAt bytes h
  have hsentinel : (Descriptor.decode record).isSentinel = true := by
    rw [hdecode, isSentinel_iff]
    exact hzero
  exact (DescriptorStep.sentinel ⟨hpast, hrecord⟩ hsentinel).eq

/-- A hint and a name that stand are read. -/
theorem hintNameIn_of_number? {library name : String} {e : Entry} {place hint : Int}
    (hwhole : ctx.limits.maxTextLength.kind = .whole) (hname : e.isOrdinal = false)
    (hplace : ctx.sections.toOffset? e.hintNameRva = some place)
    (hhint : Bytes.number? bytes place 2 = some hint)
    (htext : Bytes.textAt? bytes (place + 2) = some name)
    (hshort : (name.length : Int) ≤ ctx.limits.maxTextLength.bound) :
    ctx.hintNameIn bytes library e = .ok { e with hint := some hint, name } := by
  obtain ⟨run, hrun, hvalue⟩ := Option.map_eq_some_iff.1 hhint
  obtain ⟨h0, -, -⟩ := Bytes.run?_eq_some_iff.1 hrun
  have hpos : ((place.toNat + 2 : Nat) : Int) = place + 2 := by omega
  have hread : (ctx.limits.maxTextLength.readText ⟨bytes, place.toNat + 2⟩).1 =
      .ok (some name) := by
    rw [Limit.readText_of_whole hwhole]
    simp only [hpos, htext]
    rw [Option.filter_some, if_pos (by simpa using hshort)]
  rw [← hvalue]
  exact (HintStep.named (by simp [hname]) hplace hrun hread).eq

/-- A symbol is its thunk split by the top bit, with the hint and the name it has. -/
theorem eq_of_entryStandsAt {offset : Nat} {e : Entry} {thunk : ByteArray}
    (h : ctx.EntryStandsAt bytes offset e)
    (hrun : Bytes.run? bytes offset ctx.width.bytes = some thunk)
    (hvalue : (Bytes.littleEndian thunk : Int) = e.raw) :
    e = { Entry.ofThunk (Bytes.littleEndian thunk) (ctx.width.bits - 1) with
      hint := e.hint, name := e.name } := by
  have hlt := ctx.lt_of_run? bytes hrun
  have hordinal : testBit (Bytes.littleEndian thunk) (ctx.width.bits - 1) =
      e.isOrdinal := by
    rw [Bool.eq_iff_iff, testBit_top hlt, h.isOrdinal, hvalue]
  have hpayload := payload_ofThunk (Bytes.littleEndian thunk) (ctx.width.bits - 1)
  rw [hvalue, ← h.payload] at hpayload
  obtain ⟨raw, isOrdinal, payload, hint, name⟩ := e
  simp only [Entry.ofThunk, Entry.mk.injEq, and_true] at hpayload hordinal hvalue ⊢
  exact ⟨hvalue.symm, hordinal.symm, by rw [hvalue, hpayload]⟩

/-- The second step accepts a symbol that stands. -/
theorem entryAt_of_stands {library : String} {tableEnd? : Option Int} {offset count : Nat}
    {e : Entry} (hwhole : ctx.limits.maxTextLength.kind = .whole)
    (hpast : runsPast tableEnd? (offset + ctx.width.bytes) = false)
    (h : ctx.EntryStandsAt bytes offset e)
    (hshort : e.isOrdinal = false →
      (e.name.length : Int) ≤ ctx.limits.maxTextLength.bound)
    (hfew : (count : Int) < ctx.limits.maxEntriesPerLibrary.bound) :
    ctx.entryAt bytes library tableEnd? offset count = .ok e := by
  obtain ⟨thunk, hrun, hvalue⟩ := Option.map_eq_some_iff.1 h.raw
  have heq := ctx.eq_of_entryStandsAt bytes h hrun hvalue
  have hzero : Bytes.littleEndian thunk ≠ 0 := by
    intro hzero
    apply h.raw_ne_zero
    rw [← hvalue, hzero, Int.natCast_zero]
  have hlimit : ¬ ctx.limits.maxEntriesPerLibrary.reachedBy count = true := by
    simp only [Limit.reachedBy, decide_eq_true_eq]
    omega
  have hfound : ctx.hintNameIn bytes library
      (.ofThunk (Bytes.littleEndian thunk) (ctx.width.bits - 1)) = .ok e := by
    have hkind : (Entry.ofThunk (Bytes.littleEndian thunk)
        (ctx.width.bits - 1)).isOrdinal =
        e.isOrdinal := by rw [heq]
    cases hordinal : e.isOrdinal with
    | true =>
      obtain ⟨hhint, hname⟩ := h.byOrdinal hordinal
      rw [hhint, hname] at heq
      rw [(HintStep.ordinal (hkind.trans hordinal)).eq]
      exact congrArg _ heq.symm
    | false =>
      obtain ⟨place, hint, hplace, hnumber, hhint, htext⟩ := h.byName hordinal
      rw [hordinal] at hkind
      rw [← hvalue, ← ctx.hintNameRva_ofThunk] at hplace
      rw [ctx.hintNameIn_of_number? bytes hwhole hkind hplace hnumber htext
        (hshort hordinal), ← hhint, ← heq]
  exact (EntryStep.accepted ⟨hpast, hrun⟩ hzero hlimit hfound).eq

/-- The second step ends at a zero. -/
theorem entryAt_of_zero {library : String} {tableEnd? : Option Int} {offset count : Nat}
    (hpast : runsPast tableEnd? (offset + ctx.width.bytes) = false)
    (h : Bytes.number? bytes offset ctx.width.bytes = some 0) :
    ctx.entryAt bytes library tableEnd? offset count = .error .complete := by
  obtain ⟨thunk, hrun, hvalue⟩ := Option.map_eq_some_iff.1 h
  have hzero : Bytes.littleEndian thunk = 0 := by exact_mod_cast hvalue
  exact (EntryStep.zero ⟨hpast, hrun⟩ hzero).eq

/-! ## Tables that stand complete -/

/-- The lookup table of a library stands complete at `start`: its symbols in front of a
zero, outside the descriptor array of `count` libraries, in its section, and within the
limits. -/
structure TableStands (location : DataDirectory.Location) (count : Nat) (l : Library)
    (start : Nat) : Prop where
  place : ctx.sections.toOffset? l.descriptor.lookupRva = some (start : Int)
  outside : location.offset + Descriptor.recordSize * (count + 1) ≤ start
  inside : ∀ tableEnd, ctx.sections.rawEndAt? l.descriptor.lookupRva = some tableEnd →
    (start : Int) + ctx.width.bytes * (l.entries.length + 1) ≤ tableEnd
  entry : ∀ (j : Nat) e, l.entries[j]? = some e →
    ctx.EntryStandsAt bytes (start + ctx.width.bytes * j) e
  last : Bytes.number? bytes (start + ctx.width.bytes * l.entries.length)
    ctx.width.bytes = some 0
  short : ∀ e ∈ l.entries, e.isOrdinal = false →
    (e.name.length : Int) ≤ ctx.limits.maxTextLength.bound
  few : (l.entries.length : Int) ≤ ctx.limits.maxEntriesPerLibrary.bound

/-- A directory stands complete: its descriptors in front of a record without tables, with
the lookup table of each, in its section, and within the limits. -/
structure DirectoryStands (location : DataDirectory.Location)
    (libraries : List Library) : Prop where
  whole : ctx.limits.maxTextLength.kind = .whole
  nonneg : 0 ≤ location.offset
  descriptors : ctx.DescriptorsStand bytes location libraries
  last : ∃ d, FieldsAt bytes
    (location.offset + Descriptor.recordSize * libraries.length) d
    ∧ d.originalFirstThunk = 0 ∧ d.firstThunk = 0
  inside : ∀ tableEnd, ctx.sections.rawEndAt? location.rva = some tableEnd →
    location.offset + Descriptor.recordSize * (libraries.length + 1) ≤ tableEnd
  short : ∀ l ∈ libraries, (l.name.length : Int) ≤ ctx.limits.maxTextLength.bound
  few : (libraries.length : Int) ≤ ctx.limits.maxLibraries.bound
  tables : ∀ l ∈ libraries, ∃ start,
    ctx.TableStands bytes location libraries.length l start

variable {location : DataDirectory.Location}

/-- The place of a record is inside when the place behind the whole array is. -/
theorem runsPast_record {tableEnd? : Option Int} {start : Int} {size count i : Nat}
    (h : ∀ tableEnd, tableEnd? = some tableEnd → start + size * (count + 1) ≤ tableEnd)
    (hi : i ≤ count) : runsPast tableEnd? (start + size * i + size) = false := by
  apply runsPast_eq_false
  intro tableEnd hend
  have hmul : size * i ≤ size * count := Nat.mul_le_mul_left size hi
  have hle := h tableEnd hend
  rw [Int.mul_add, Int.mul_one] at hle
  have hmul' : (size : Int) * i ≤ size * count := by exact_mod_cast hmul
  omega

/-- A lookup table that stands complete is read to its zero. -/
theorem lookupIn_of_tableStands {count start : Nat} {l : Library} {arrayEnd : Int}
    (hwhole : ctx.limits.maxTextLength.kind = .whole)
    (h : ctx.TableStands bytes location count l start)
    (harray : arrayEnd ≤ location.offset + Descriptor.recordSize * (count + 1)) :
    (ctx.lookupIn bytes location.offset arrayEnd l.descriptor).items = l.entries
      ∧ (ctx.lookupIn bytes location.offset arrayEnd l.descriptor).ending =
        .complete := by
  have hin : (0 : Int) ≤ start ∧ (start : Int) ≤ bytes.size := by
    obtain ⟨run, hrun, -⟩ := Option.map_eq_some_iff.1 h.last
    obtain ⟨-, hle, -⟩ := Bytes.run?_eq_some_iff.1 hrun
    have hmul : (0 : Int) ≤ ctx.width.bytes * l.entries.length := by
      exact_mod_cast Nat.zero_le _
    omega
  have hexpected : (⟨l.entries, ⟨bytes, 0⟩, .complete⟩ : Scan Entry).Follows fun i =>
      ctx.entryAt bytes l.descriptor.name (ctx.sections.rawEndAt? l.descriptor.lookupRva)
        (start + ctx.width.bytes * i) i :=
    { item := fun i (hi : i < l.entries.length) => by
        have hget : l.entries[i]? = some l.entries[i] := List.getElem?_eq_getElem hi
        have hstands := h.entry i _ hget
        have hpast := runsPast_record h.inside (Nat.le_of_lt hi)
        rw [← Int.natCast_mul, ← Int.natCast_add] at hstands hpast
        have hfew := h.few
        exact ctx.entryAt_of_stands bytes hwhole hpast hstands
          (h.short _ (List.mem_of_getElem? hget)) (by omega)
      last := by
        have hzero := h.last
        have hpast := runsPast_record h.inside (Nat.le_refl l.entries.length)
        rw [← Int.natCast_mul, ← Int.natCast_add] at hzero hpast
        exact ctx.entryAt_of_zero bytes hpast hzero }
  rcases ctx.lookupIn_cases bytes location.offset arrayEnd l.descriptor with
    ⟨hnone, -, -⟩ | ⟨found, hfound, hcases⟩
  · rw [h.place] at hnone
    cases hnone
  · have hstart : found = (start : Int) := Option.some.inj (hfound.symm.trans h.place)
    subst hstart
    rcases hcases with ⟨hout, -, -⟩ | ⟨-, hinside, -, -⟩ | ⟨-, -, hrun⟩
    · exact absurd hin hout
    · have houtside := h.outside
      omega
    · exact hrun.unique hexpected

/-- An array that stands complete is read to the record without tables. -/
theorem descriptorsIn_of_directoryStands {libraries : List Library}
    (h : ctx.DirectoryStands bytes location libraries) :
    (ctx.descriptorsIn bytes location).items = libraries.map (·.descriptor)
      ∧ (ctx.descriptorsIn bytes location).ending = .complete := by
  have hplace (i : Nat) :
      ((location.offset.toNat + Descriptor.recordSize * i : Nat) : Int) =
      location.offset + Descriptor.recordSize * i := by
    rw [Int.natCast_add, Int.toNat_of_nonneg h.nonneg, Int.natCast_mul]
  have hexpected :
      (⟨libraries.map (·.descriptor), ⟨bytes, 0⟩, .complete⟩ : Scan Descriptor).Follows
      fun i => ctx.descriptorAt bytes (ctx.sections.rawEndAt? location.rva)
        (location.offset.toNat + Descriptor.recordSize * i) i :=
    { item := fun i hi => by
        rw [List.length_map] at hi
        have hget : libraries[i]? = some libraries[i] := List.getElem?_eq_getElem hi
        have hstands := h.descriptors i _ hget
        have hpast := runsPast_record h.inside (Nat.le_of_lt hi)
        rw [← hplace] at hstands hpast
        have hfew := h.few
        rw [List.getElem_map]
        exact ctx.descriptorAt_of_stands bytes h.whole hpast hstands
          (h.short _ (List.mem_of_getElem? hget)) (by omega)
      last := by
        obtain ⟨d, hd, hzero⟩ := h.last
        have hpast := runsPast_record h.inside (Nat.le_refl libraries.length)
        rw [← hplace] at hd hpast
        rw [List.length_map]
        exact ctx.descriptorAt_of_zero bytes hpast hd hzero }
  exact (ctx.descriptorsIn_follows bytes location).unique hexpected

/-- Libraries with the same descriptors are the same, when the symbols of each are what
its descriptor leads to. -/
theorem eq_of_descriptors (entries : Descriptor → List Entry)
    {first second : List Library}
    (h : first.map (·.descriptor) = second.map (·.descriptor))
    (h₁ : ∀ l ∈ first, l.entries = entries l.descriptor)
    (h₂ : ∀ l ∈ second, l.entries = entries l.descriptor) : first = second := by
  have hback (ls : List Library) (hls : ∀ l ∈ ls, l.entries = entries l.descriptor) :
      (ls.map (·.descriptor)).map (fun d => (⟨d, entries d⟩ : Library)) = ls := by
    have hid (l : Library) (hl : l ∈ ls) :
        (⟨l.descriptor, entries l.descriptor⟩ : Library) = l := by
      rw [← hls l hl]
    rw [List.map_map]
    exact (List.map_congr_left hid).trans (List.map_id _)
  rw [← hback first h₁, h, hback second h₂]

/-- An array that is complete, with lookup tables that are read to their ends, is all there is
to read. -/
theorem readAt_of_complete (bits : Option Int) {r : Reader} {libraries : List Library}
    (h0 : 0 ≤ location.offset) (hle : location.offset ≤ r.data.size)
    (hitems : (ctx.descriptorsIn r.data location).items = libraries.map (·.descriptor))
    (hending : (ctx.descriptorsIn r.data location).ending = .complete)
    (htables : ctx.LookupsRead r.data location libraries none) :
    ∃ reader, readAt ctx bits location r = outcome bits libraries true
      (duplicateWarnings ((libraries.map (·.descriptor)).map (·.name))) reader [] none := by
  have hended stop : (ctx.descriptorsIn r.data location).ending ≠ .stopped stop := by
    rw [hending]
    intro hn
    cases hn
  obtain ⟨found, reader, stop?, hread, hdescriptors, hfound⟩ :=
    readAt_of_ended ctx bits h0 hle hended
  rw [hitems] at hread hdescriptors
  have hlen : found.length = libraries.length := by
    have hlengths := congrArg List.length hdescriptors
    rwa [List.length_map, List.length_map] at hlengths
  cases stop? with
  | some stop =>
    -- The table that stopped the reading is one of those that are read to their ends.
    obtain ⟨before, l, behind, hsplit, -, ⟨-, hstop⟩, -⟩ := hfound
    have hmem : l.descriptor ∈ libraries.map (·.descriptor) := by
      rw [← hdescriptors, hsplit]
      simp
    obtain ⟨m, hm, heq⟩ := List.mem_map.1 hmem
    have hdone := (htables m hm).2
    rw [heq, ← hlen] at hdone
    cases hdone.symm.trans hstop
  | none =>
    have heq : found = libraries := by
      refine eq_of_descriptors
        (fun d => (ctx.lookupIn r.data location.offset (location.offset.toNat
          + Descriptor.recordSize * (found.length + 1) : Nat) d).items)
        hdescriptors (fun l hl => (hfound l hl).1) fun l hl => ?_
      rw [hlen]
      exact (htables l hl).1
    refine ⟨reader, ?_⟩
    rw [hread, heq, hending]
    rfl

/-- **What stands is read**: a directory that stands complete is read to its end, and its
libraries are the ones that stand. -/
theorem readAt_of_directoryStands (bits : Option Int) {r : Reader}
    {libraries : List Library} (h : ctx.DirectoryStands r.data location libraries) :
    (readAt ctx bits location r).fault? = none
      ∧ (readAt ctx bits location r).table.error = none
      ∧ (readAt ctx bits location r).table.directoryPresent = true
      ∧ (readAt ctx bits location r).table.libraries = libraries := by
  obtain ⟨hitems, hending⟩ := ctx.descriptorsIn_of_directoryStands r.data h
  have hin : location.offset ≤ r.data.size := by
    obtain ⟨d, hd, -⟩ := h.last
    obtain ⟨run, hrun, -⟩ := Option.map_eq_some_iff.1 hd.originalFirstThunk
    obtain ⟨-, hle, -⟩ := Bytes.run?_eq_some_iff.1 hrun
    have hmul : (0 : Int) ≤ Descriptor.recordSize * libraries.length := by
      exact_mod_cast Nat.zero_le _
    omega
  have harray : ((location.offset.toNat + Descriptor.recordSize * (libraries.length + 1) : Nat) :
      Int) ≤ location.offset + Descriptor.recordSize * (libraries.length + 1) := by
    rw [Int.natCast_add, Int.toNat_of_nonneg h.nonneg, Int.natCast_mul, Int.natCast_add]
    exact Int.le_refl _
  have htables : ctx.LookupsRead r.data location libraries none := by
    intro l hl
    obtain ⟨start, hstart⟩ := h.tables l hl
    obtain ⟨hentries, hdone⟩ := ctx.lookupIn_of_tableStands r.data h.whole hstart harray
    exact ⟨hentries.symm, hdone⟩
  obtain ⟨reader, hread⟩ := ctx.readAt_of_complete bits h.nonneg hin hitems hending htables
  rw [hread]
  exact ⟨rfl, rfl, rfl, rfl⟩

end ImageImports.Import.Context

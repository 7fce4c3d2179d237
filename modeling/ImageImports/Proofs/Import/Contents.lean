import ImageImports.Proofs.Import.Steps

/-!
# An import table is what stands in the file

The reading of an import directory is told here without a head.  A descriptor *stands at*
an offset when its five fields are the numbers there and its name is the text that its
name address leads to; a symbol stands at an offset when its thunk is the number there and
its hint and name are where the thunk points.  Nothing in these statements reads anything
in order.

The descriptor array begins at the directory, and its records lie twenty bytes apart.  The
thunks of a library begin where its lookup address leads to, and lie one thunk apart.

## Main results

* `read_stands` — every library and every symbol of a table stands at its place, however
  the reading ended; and when it ended well, every lookup table ends in a zero and the
  array in a record that may end it.
-/

namespace ImageImports.Import

/-- No text that the limit admits is at an offset.  A whole limit admits the texts up to
its bound; what another limit admits is what it reads. -/
def Limit.NoTextAt (limit : Limit) (bytes : ByteArray) (place : Int) : Prop :=
  match limit.kind with
  | .whole => ∀ s, Bytes.textAt? bytes place = some s → limit.bound < s.length
  | _ => (limit.readTextAt ⟨bytes, 0⟩ place).1 = .ok none

theorem Limit.noTextAt_iff {limit : Limit} {bytes : ByteArray} {place : Int} :
    limit.NoTextAt bytes place ↔ (limit.readTextAt ⟨bytes, 0⟩ place).1 = .ok none := by
  simp only [NoTextAt]
  split
  · next hwhole =>
    rw [readTextAt_of_whole hwhole]
    cases htext : Bytes.textAt? bytes place with
    | none => simp
    | some s => simp [Option.filter_some]
  · rfl

/-- The limits make the reading of an import directory fail: one of them cannot be compared with
a count, or no text can be read up to it. -/
def Limits.Raise (limits : Limits) (fault : SettingFault) : Prop :=
  limits.maxLibraries.comparisonFault? ">=" = some fault
    ∨ limits.maxEntriesPerLibrary.comparisonFault? ">=" = some fault
    ∨ ∃ r, (limits.maxTextLength.readText r).1 = .error fault

namespace Context

variable (ctx : Context) (bytes : ByteArray)

/-! ## What stands at an offset -/

/-- The five fields of a descriptor are the numbers at an offset. -/
structure FieldsAt (offset : Int) (d : Descriptor) : Prop where
  originalFirstThunk : Bytes.number? bytes offset 4 = some d.originalFirstThunk
  timeDateStamp : Bytes.number? bytes (offset + 4) 4 = some d.timeDateStamp
  forwarderChain : Bytes.number? bytes (offset + 8) 4 = some d.forwarderChain
  nameRva : Bytes.number? bytes (offset + 12) 4 = some d.nameRva
  firstThunk : Bytes.number? bytes (offset + 16) 4 = some d.firstThunk

/-- The library name of a descriptor is at `place`: where its address leads to, or at the
address taken as an offset when it leads nowhere and the fallback is on. -/
def NamePlace (d : Descriptor) (place : Int) : Prop :=
  ctx.sections.toOffset? d.nameRva = some place
    ∨ (ctx.sections.toOffset? d.nameRva = none ∧ ctx.limits.nameOffsetFallback = true
      ∧ place = d.nameRva)

/-- A descriptor with its name stands at an offset. -/
structure DescriptorStandsAt (offset : Int) (d : Descriptor) : Prop where
  fields : FieldsAt bytes offset d
  tables : ¬ (d.originalFirstThunk = 0 ∧ d.firstThunk = 0)
  name : ∃ place, ctx.NamePlace d place ∧ Bytes.textAt? bytes place = some d.name

/-- The hint and the name of a thunk stand where its lower 31 bits lead to. -/
def HintNameStands (e : Entry) : Prop :=
  ∃ place hint, ctx.sections.toOffset? (e.raw % 2 ^ 31) = some place
    ∧ Bytes.number? bytes place 2 = some hint ∧ e.hint = some hint
    ∧ Bytes.textAt? bytes (place + 2) = some e.name

/-- A symbol stands at an offset. -/
structure EntryStandsAt (offset : Int) (e : Entry) : Prop where
  raw : Bytes.number? bytes offset ctx.width.bytes = some e.raw
  raw_ne_zero : e.raw ≠ 0
  isOrdinal : e.isOrdinal = true ↔ 2 ^ (ctx.width.bits - 1) ≤ e.raw
  payload : e.payload = e.raw % 2 ^ (ctx.width.bits - 1)
  byOrdinal : e.isOrdinal = true → e.hint = none ∧ e.name = ""
  byName : e.isOrdinal = false → ctx.HintNameStands bytes e

/-- The thunk behind the last symbol of a library is zero. -/
def EndsInZero (l : Library) : Prop :=
  ∃ start, ctx.sections.toOffset? l.descriptor.lookupRva = some start
    ∧ Bytes.number? bytes (start + ctx.width.bytes * l.entries.length) ctx.width.bytes =
      some 0

/-- No name can be read for a descriptor: where it would be is no text that the limit
admits. -/
def Nameless (d : Descriptor) : Prop :=
  ∀ place, ctx.NamePlace d place → ctx.limits.maxTextLength.NoTextAt bytes place

/-- The record of an array that stands behind `count` libraries ends it: it lies in the
section of the array, and it has neither table or, behind at least one library, no name
that can be read. -/
structure ArrayEnds (location : DataDirectory.Location) (count : Nat)
    (d : Descriptor) : Prop where
  fields : FieldsAt bytes (location.offset + Descriptor.recordSize * count) d
  inside : ∀ tableEnd, ctx.sections.rawEndAt? location.rva = some tableEnd →
    location.offset + Descriptor.recordSize * (count + 1) ≤ tableEnd
  last : (d.originalFirstThunk = 0 ∧ d.firstThunk = 0)
    ∨ (0 < count ∧ ctx.Nameless bytes d)

/-! ## Names -/

theorem nameOffset?_eq_some_iff {d : Descriptor} {place : Int} :
    ctx.nameOffset? d = some place ↔ ctx.NamePlace d place := by
  simp only [nameOffset?, NamePlace]
  cases ctx.sections.toOffset? d.nameRva with
  | some offset => simp
  | none =>
    by_cases hfallback : ctx.limits.nameOffsetFallback = true
    · simp [hfallback, eq_comm]
    · simp [hfallback]

/-- A library name that is read is the text at its place. -/
theorem name_of_nameIn {d : Descriptor} {name : String}
    (h : ctx.nameIn bytes d = .ok (some name)) :
    ∃ place, ctx.NamePlace d place ∧ Bytes.textAt? bytes place = some name := by
  simp only [nameIn, libraryName] at h
  split at h
  · cases h
  · next place hplace =>
    exact ⟨place, ctx.nameOffset?_eq_some_iff.1 hplace, Limit.textAt?_of_readTextAt h⟩

theorem nameIn_eq_none_iff {d : Descriptor} :
    ctx.nameIn bytes d = .ok none ↔ ctx.Nameless bytes d := by
  simp only [nameIn, libraryName, Nameless, ← nameOffset?_eq_some_iff]
  cases hplace : ctx.nameOffset? d with
  | none => simp
  | some place => simp [Limit.noTextAt_iff]

/-! ## What the steps accept stands there -/

theorem fieldsAt_decode {offset : Nat} {record : ByteArray}
    (h : Bytes.run? bytes offset Descriptor.recordSize = some record) :
    FieldsAt bytes offset (Descriptor.decode record) where
  originalFirstThunk := by
    simpa [Descriptor.decode] using Bytes.number?_of_run? h 0 4 (by decide)
  timeDateStamp := Bytes.number?_of_run? h 4 4 (by decide)
  forwarderChain := Bytes.number?_of_run? h 8 4 (by decide)
  nameRva := Bytes.number?_of_run? h 12 4 (by decide)
  firstThunk := Bytes.number?_of_run? h 16 4 (by decide)

/-- The fields at an offset are the fields of one descriptor only. -/
theorem FieldsAt.unique {offset : Int} {d e : Descriptor} (hd : FieldsAt bytes offset d)
    (he : FieldsAt bytes offset e) : d = { e with name := d.name } := by
  have h0 := Option.some.inj (hd.originalFirstThunk.symm.trans he.originalFirstThunk)
  have h4 := Option.some.inj (hd.timeDateStamp.symm.trans he.timeDateStamp)
  have h8 := Option.some.inj (hd.forwarderChain.symm.trans he.forwarderChain)
  have h12 := Option.some.inj (hd.nameRva.symm.trans he.nameRva)
  have h16 := Option.some.inj (hd.firstThunk.symm.trans he.firstThunk)
  rw [← h0, ← h4, ← h8, ← h12, ← h16]

theorem isSentinel_iff {d : Descriptor} :
    d.isSentinel = true ↔ d.originalFirstThunk = 0 ∧ d.firstThunk = 0 := by
  simp [Descriptor.isSentinel]

/-- An accepted descriptor stands where it was read. -/
theorem stands_of_descriptorAt {tableEnd? : Option Int} {offset count : Nat}
    {d : Descriptor} (h : ctx.descriptorAt bytes tableEnd? offset count = .ok d) :
    ctx.DescriptorStandsAt bytes offset d := by
  cases ctx.descriptorStep bytes h with
  | accepted hat htables hname hfew =>
    have hfields := fieldsAt_decode bytes hat.run
    exact
      { fields := ⟨hfields.1, hfields.2, hfields.3, hfields.4, hfields.5⟩
        tables := mt isSentinel_iff.2 htables
        name := ctx.name_of_nameIn bytes hname }

/-- The record that ends an array, with its place. -/
theorem ends_of_descriptorAt {tableEnd? : Option Int} {offset count : Nat}
    {ending : Ending} (h : ctx.descriptorAt bytes tableEnd? offset count = .error ending)
    (hended : ∀ stop, ending ≠ .stopped stop) :
    runsPast tableEnd? (offset + Descriptor.recordSize) = false
      ∧ ∃ d, FieldsAt bytes offset d
        ∧ ((d.originalFirstThunk = 0 ∧ d.firstThunk = 0)
          ∨ (0 < count ∧ ctx.Nameless bytes d)) := by
  cases ctx.descriptorStep bytes h with
  | unterminated hpast => exact absurd rfl (hended _)
  | unreadable hin hnone => exact absurd rfl (hended _)
  | sentinel hat hsentinel =>
    exact ⟨hat.inTable, _, fieldsAt_decode bytes hat.run, .inl (isSentinel_iff.1 hsentinel)⟩
  | faulted hat htables hname => exact absurd rfl (hended _)
  | namelessFirst hat htables hname hcount => exact absurd rfl (hended _)
  | nameless hat htables hname hcount =>
    have hless := (ctx.nameIn_eq_none_iff bytes).1 hname
    exact ⟨hat.inTable, _, fieldsAt_decode bytes hat.run,
      .inr ⟨Nat.pos_of_ne_zero hcount, hless⟩⟩
  | full hat htables hname hfull hstop => exact absurd rfl (hended _)

/-! ### Thunks -/

/-- The top bit of a number that fits is whether the number reaches it. -/
theorem testBit_top {value width : Nat} (h : value < 2 ^ (width + 1)) :
    testBit value width = true ↔ (2 : Int) ^ width ≤ value := by
  have hdiv : value / 2 ^ width < 2 := by
    rw [Nat.div_lt_iff_lt_mul (Nat.two_pow_pos width)]
    rwa [Nat.pow_succ, Nat.mul_comm] at h
  have hle : 1 ≤ value / 2 ^ width ↔ 2 ^ width ≤ value := by
    rw [Nat.le_div_iff_mul_le (Nat.two_pow_pos width), Nat.one_mul]
  have hcast : (value : Int) / (1 <<< width : Nat) % 2 =
      ((value / 2 ^ width % 2 : Nat) : Int) := by
    rw [Nat.one_shiftLeft]
    push_cast
    rfl
  have hpow : (2 : Int) ^ width ≤ value ↔ 2 ^ width ≤ value := by
    exact_mod_cast Iff.rfl
  rw [testBit, decide_eq_true_eq, hcast, hpow, ← hle]
  generalize value / 2 ^ width = top at hdiv ⊢
  omega

theorem payload_ofThunk (raw : Int) (width : Nat) :
    (Entry.ofThunk raw width).payload = raw % 2 ^ width := by
  have hpow : ((1 <<< width : Nat) : Int) = 2 ^ width := by
    rw [Nat.one_shiftLeft]
    push_cast
    rfl
  rw [Entry.ofThunk, hpow]

/-- A thunk leads to where its lower 31 bits say, whatever its width. -/
theorem hintNameRva_ofThunk (value : Int) :
    (Entry.ofThunk value (ctx.width.bits - 1)).hintNameRva = value % 2 ^ 31 := by
  have hdvd : (2 : Int) ^ 31 ∣ 2 ^ (ctx.width.bits - 1) := by
    cases ctx.width with
    | narrow => exact Int.dvd_refl _
    | wide => exact ⟨2 ^ 32, by decide⟩
  have hlow : ((0x80000000 : Int)) = 2 ^ 31 := by decide
  rw [Entry.hintNameRva, payload_ofThunk, hlow, Int.emod_emod_of_dvd _ hdvd]

/-- A symbol whose hint and name were read has them at the place its thunk leads to. -/
theorem hintNameIn_eq_ok {library : String} {e found : Entry}
    (h : ctx.hintNameIn bytes library e = .ok found) :
    (e.isOrdinal = true ∧ found = e)
      ∨ (e.isOrdinal = false ∧ ∃ place hint name,
        ctx.sections.toOffset? e.hintNameRva = some place
          ∧ Bytes.number? bytes place 2 = some hint
          ∧ Bytes.textAt? bytes (place + 2) = some name
          ∧ found = { e with hint := some hint, name }) := by
  cases ctx.hintStep bytes h with
  | ordinal hordinal => exact .inl ⟨hordinal, rfl⟩
  | named hname hplace hhint htext =>
    obtain ⟨h0, -, -⟩ := Bytes.run?_eq_some_iff.1 hhint
    have hspelt := Limit.textAt?_of_readText htext
    rw [Int.natCast_add, Int.toNat_of_nonneg h0] at hspelt
    refine .inr ⟨by simpa using hname, _, _, _, hplace, ?_, hspelt, rfl⟩
    rw [Bytes.number?, hhint, Option.map_some]

/-- A thunk has as many bits as the image's addresses. -/
theorem lt_of_run? {offset : Int} {thunk : ByteArray}
    (h : Bytes.run? bytes offset ctx.width.bytes = some thunk) :
    Bytes.littleEndian thunk < 2 ^ (ctx.width.bits - 1 + 1) := by
  have hbound := Bytes.littleEndian_lt thunk
  rw [Bytes.size_of_run? h, Nat.one_shiftLeft] at hbound
  cases hwidth : ctx.width <;> simpa [hwidth, Width.bytes, Width.bits] using hbound

/-- A thunk that is not zero, with its hint and its name, is a symbol that stands
there. -/
theorem stands_of_hintNameIn {library : String} {offset : Nat} {thunk : ByteArray}
    {e : Entry} (hthunk : Bytes.run? bytes offset ctx.width.bytes = some thunk)
    (hzero : Bytes.littleEndian thunk ≠ 0)
    (h : ctx.hintNameIn bytes library
      (.ofThunk (Bytes.littleEndian thunk) (ctx.width.bits - 1)) = .ok e) :
    ctx.EntryStandsAt bytes offset e := by
  have hlt := ctx.lt_of_run? bytes hthunk
  have hnumber : Bytes.number? bytes offset ctx.width.bytes =
      some (Bytes.littleEndian thunk : Int) := by
    rw [Bytes.number?, hthunk, Option.map_some]
  rcases ctx.hintNameIn_eq_ok bytes h with
    ⟨hordinal, rfl⟩ | ⟨hordinal, place, hint, name, hplace, hhint, hname, rfl⟩
  · exact
      { raw := hnumber
        raw_ne_zero := by simpa [Entry.ofThunk] using hzero
        isOrdinal := testBit_top hlt
        payload := payload_ofThunk _ _
        byOrdinal := fun _ => ⟨rfl, rfl⟩
        byName := fun hname => absurd (hordinal.symm.trans hname) (by decide) }
  · have hplace' : ctx.sections.toOffset? ((Bytes.littleEndian thunk : Int) % 2 ^ 31) =
        some place := by
      rw [← hplace, ctx.hintNameRva_ofThunk]
    exact
      { raw := hnumber
        raw_ne_zero := by simpa [Entry.ofThunk] using hzero
        isOrdinal := testBit_top hlt
        payload := payload_ofThunk _ _
        byOrdinal := fun hord => absurd (hordinal.symm.trans hord) (by decide)
        byName := fun _ => ⟨place, hint, hplace', hhint, rfl, hname⟩ }

/-- An accepted symbol stands where it was read. -/
theorem stands_of_entryAt {library : String} {tableEnd? : Option Int} {offset count : Nat}
    {e : Entry} (h : ctx.entryAt bytes library tableEnd? offset count = .ok e) :
    ctx.EntryStandsAt bytes offset e := by
  cases ctx.entryStep bytes h with
  | accepted hat hzero hfew hhint => exact ctx.stands_of_hintNameIn bytes hat.run hzero hhint

/-- The thunk that ends a lookup table is zero. -/
theorem zero_of_entryAt {library : String} {tableEnd? : Option Int} {offset count : Nat}
    (h : ctx.entryAt bytes library tableEnd? offset count = .error .complete) :
    Bytes.number? bytes offset ctx.width.bytes = some 0 := by
  cases ctx.entryStep bytes h with
  | zero hat hzero => rw [Bytes.number?, hat.run, Option.map_some, hzero, Int.natCast_zero]

/-! ## Tables of thunks -/

variable {arrayStart arrayEnd : Int} {location : DataDirectory.Location}

/-- The symbols of a lookup table stand one thunk apart from where its address leads
to. -/
theorem lookupIn_stands {d : Descriptor} {j : Nat} {e : Entry}
    (h : (ctx.lookupIn bytes arrayStart arrayEnd d).items[j]? = some e) :
    ∃ start, ctx.sections.toOffset? d.lookupRva = some start
      ∧ ctx.EntryStandsAt bytes (start + ctx.width.bytes * j) e := by
  obtain ⟨start, hstart, h0, hat⟩ := ctx.entryAt_of_lookupIn bytes h
  have hstands := ctx.stands_of_entryAt bytes hat
  rw [Int.natCast_add, Int.toNat_of_nonneg h0, Int.natCast_mul] at hstands
  exact ⟨start, hstart, hstands⟩

/-- A lookup table that was read to its end ends in a zero. -/
theorem endsInZero_of_readToEnd {l : Library}
    (h : ctx.ReadToEnd bytes arrayStart arrayEnd l) : ctx.EndsInZero bytes l := by
  obtain ⟨hentries, hending⟩ := h
  rcases ctx.lookupIn_cases bytes arrayStart arrayEnd l.descriptor with
    ⟨-, -, hstop⟩ | ⟨start, hstart, ⟨-, -, hstop⟩ | ⟨-, -, -, hstop⟩ | ⟨⟨h0, -⟩, -, hrun⟩⟩
  · rw [hending] at hstop
    cases hstop
  · rw [hending] at hstop
    cases hstop
  · rw [hending] at hstop
    cases hstop
  · have hlast := hrun.last
    rw [hending, ← hentries] at hlast
    have hzero := ctx.zero_of_entryAt bytes hlast
    rw [Int.natCast_add, Int.toNat_of_nonneg h0, Int.natCast_mul] at hzero
    exact ⟨start, hstart, hzero⟩

/-! ## The whole table -/

/-- The symbols of a library that the second phase came to are those of its lookup
table. -/
theorem LookupsRead.entries {libraries : List Library} {stop? : Option Stop}
    (h : ctx.LookupsRead bytes location libraries stop?) {l : Library}
    (hl : l ∈ libraries) :
    l.entries = [] ∨ l.entries = (ctx.lookupIn bytes location.offset
      (location.offset.toNat + Descriptor.recordSize * (libraries.length + 1) : Nat)
        l.descriptor).items := by
  cases stop? with
  | none => exact .inr (h l hl).1
  | some stop =>
    obtain ⟨before, m, behind, heq, hbefore, hm, hbehind⟩ := h
    rw [heq] at hl
    rcases List.mem_append.1 hl with hin | hin
    · exact .inr (hbefore l hin).1
    · rcases List.mem_cons.1 hin with rfl | hin
      · exact .inr hm.1
      · exact .inl (hbehind l hin)

/-- The libraries are those of the records at the front of the array. -/
def DescriptorsStand (location : DataDirectory.Location)
    (libraries : List Library) : Prop :=
  ∀ (i : Nat) l, libraries[i]? = some l →
    ctx.DescriptorStandsAt bytes
      (location.offset + Descriptor.recordSize * i) l.descriptor

/-- The libraries of a table and their symbols stand at their places. -/
structure LibrariesStand (location : DataDirectory.Location) (libraries : List Library) :
    Prop where
  descriptors : ctx.DescriptorsStand bytes location libraries
  entry : ∀ l ∈ libraries, ∀ (j : Nat) e, l.entries[j]? = some e →
    ∃ start, ctx.sections.toOffset? l.descriptor.lookupRva = some start
      ∧ ctx.EntryStandsAt bytes (start + ctx.width.bytes * j) e

/-- Libraries with the descriptors of the array are those of its records. -/
theorem descriptorsStand_of_descriptors (h0 : 0 ≤ location.offset)
    {libraries : List Library}
    (hdescriptors : libraries.map (·.descriptor) =
      (ctx.descriptorsIn bytes location).items) :
    ctx.DescriptorsStand bytes location libraries := by
  intro i l hl
  have hitem : (ctx.descriptorsIn bytes location).items[i]? = some l.descriptor := by
    rw [← hdescriptors, List.getElem?_map, hl, Option.map_some]
  have hstands :=
    ctx.stands_of_descriptorAt bytes
      ((ctx.descriptorsIn_follows bytes location).getElem? hitem)
  rwa [Int.natCast_add, Int.toNat_of_nonneg h0, Int.natCast_mul] at hstands

/-- Libraries with the descriptors of the array stand, when each has the symbols of its
lookup table or none. -/
theorem librariesStand_of_descriptors (h0 : 0 ≤ location.offset)
    {libraries : List Library}
    (hdescriptors : libraries.map (·.descriptor) =
      (ctx.descriptorsIn bytes location).items)
    (hentries : ∀ l ∈ libraries, l.entries = [] ∨
      ∃ arrayEnd, l.entries =
        (ctx.lookupIn bytes location.offset arrayEnd l.descriptor).items) :
    ctx.LibrariesStand bytes location libraries where
  descriptors := ctx.descriptorsStand_of_descriptors bytes h0 hdescriptors
  entry l hl j e he := by
    rcases hentries l hl with hnil | ⟨arrayEnd, hitems⟩
    · rw [hnil] at he
      cases he
    · rw [hitems] at he
      exact ctx.lookupIn_stands bytes he

/-- An array that was read to its end ends in a record that may end it. -/
theorem arrayEnds_of_descriptorsIn (h0 : 0 ≤ location.offset)
    (hended : ∀ stop, (ctx.descriptorsIn bytes location).ending ≠ .stopped stop) :
    ∃ d, ctx.ArrayEnds bytes location
      (ctx.descriptorsIn bytes location).items.length d := by
  obtain ⟨hpast, d, hfields, hlast⟩ :=
    ctx.ends_of_descriptorAt bytes (ctx.descriptorsIn_follows bytes location).last hended
  refine ⟨d, ?_, ?_, hlast⟩
  · rwa [Int.natCast_add, Int.toNat_of_nonneg h0, Int.natCast_mul] at hfields
  · intro tableEnd hend
    simp only [hend, runsPast, decide_eq_false_iff_not, Int.not_lt] at hpast
    rw [Int.mul_add, Int.mul_one]
    omega

/-! ## Settings -/

/-- The limits on counts and texts are whole numbers. -/
structure WholeLimits : Prop where
  libraries : ctx.limits.maxLibraries.kind = .whole
  entries : ctx.limits.maxEntriesPerLibrary.kind = .whole
  text : ctx.limits.maxTextLength.kind = .whole

variable {ctx}

theorem fault_of_limitStop {limit : Limit} {cause : Cause} {fault : SettingFault}
    (h : limitStop limit cause = .fault fault) : limit.comparisonFault? ">=" = some fault := by
  rw [limitStop] at h
  split at h
  · next found hfound =>
    injection h with h
    rw [hfound, h]
  · cases h

theorem fault_of_nameIn {d : Descriptor} {fault : SettingFault}
    (h : ctx.nameIn bytes d = .error fault) :
    ∃ r, (ctx.limits.maxTextLength.readText r).1 = .error fault := by
  simp only [nameIn, libraryName, Limit.readTextAt] at h
  split at h
  · cases h
  · rw [Reader.aside_fst] at h
    split at h
    · cases h
    · exact ⟨_, h⟩

theorem fault_of_hintNameIn {library : String} {e : Entry} {fault : SettingFault}
    (h : ctx.hintNameIn bytes library e = .error (.fault fault)) :
    ∃ r, (ctx.limits.maxTextLength.readText r).1 = .error fault := by
  cases ctx.hintStep bytes h with
  | faulted hname hplace hhint htext => exact ⟨_, htext⟩

/-- A fault of the first phase is one of the limits. -/
theorem fault_of_descriptorAt {tableEnd? : Option Int} {offset count : Nat}
    {fault : SettingFault}
    (h : ctx.descriptorAt bytes tableEnd? offset count = .error (.stopped (.fault fault))) :
    ctx.limits.Raise fault := by
  cases ctx.descriptorStep bytes h with
  | faulted hat htables hname => exact .inr (.inr (fault_of_nameIn bytes hname))
  | full hat htables hname hfull hstop => exact .inl (fault_of_limitStop hstop)

/-- A fault of the second phase is one of the limits. -/
theorem fault_of_entryAt {library : String} {tableEnd? : Option Int} {offset count : Nat}
    {fault : SettingFault} (h : ctx.entryAt bytes library tableEnd? offset count =
      .error (.stopped (.fault fault))) : ctx.limits.Raise fault := by
  cases ctx.entryStep bytes h with
  | full hat hzero hfull hstop => exact .inr (.inl (fault_of_limitStop hstop))
  | hintStopped hat hzero hfew hhint => exact .inr (.inr (fault_of_hintNameIn bytes hhint))

theorem fault_of_lookupIn {d : Descriptor} {fault : SettingFault}
    (h : (ctx.lookupIn bytes arrayStart arrayEnd d).ending = .stopped (.fault fault)) :
    ctx.limits.Raise fault := by
  rcases ctx.lookupIn_cases bytes arrayStart arrayEnd d with
    ⟨-, -, hstop⟩ | ⟨start, -, ⟨-, -, hstop⟩ | ⟨-, -, -, hstop⟩ | ⟨-, -, hrun⟩⟩
  · rw [h] at hstop
    cases hstop
  · rw [h] at hstop
    cases hstop
  · rw [h] at hstop
    cases hstop
  · have hlast := hrun.last
    rw [h] at hlast
    exact fault_of_entryAt bytes hlast

/-- Whole limits raise no fault. -/
theorem WholeLimits.not_raise (h : ctx.WholeLimits) (fault : SettingFault) :
    ¬ ctx.limits.Raise fault := by
  rintro (hcompare | hcompare | ⟨r, hread⟩)
  · rw [Limit.comparisonFault?, h.libraries] at hcompare
    cases hcompare
  · rw [Limit.comparisonFault?, h.entries] at hcompare
    cases hcompare
  · rw [Limit.readText_of_whole h.text] at hread
    cases hread

/-! ## Reading a directory that was found -/

variable (ctx)

/-- What is claimed of the outcome of reading a directory: its libraries stand; whole
limits are no fault; and when the reading ended well, every lookup table ends in a zero
and the array in a record that may end it. -/
structure OutcomeStands (location : DataDirectory.Location)
    (result : Outcome) : Prop where
  libraries : ctx.LibrariesStand bytes location result.table.libraries
  returned : ctx.WholeLimits → result.fault? = none
  tablesEnd : result.fault? = none → result.table.ok = true →
    ∀ l ∈ result.table.libraries, ctx.EndsInZero bytes l
  arrayEnds : result.fault? = none → result.table.ok = true →
    ∃ d, ctx.ArrayEnds bytes location result.table.libraries.length d

/-- A reading that something stopped claims nothing of how the tables end. -/
theorem outcomeStands_of_stopped {bits : Option Int} {libraries : List Library}
    {warnings : List String} {reader : Reader} {stop : Stop}
    (hlibraries : ctx.LibrariesStand bytes location libraries)
    (hfault : ctx.WholeLimits → ∀ fault, stop ≠ .fault fault) :
    ctx.OutcomeStands bytes location
      (outcome bits libraries true warnings reader [] (some stop)) := by
  have hbad
      (hret : (outcome bits libraries true warnings reader [] (some stop)).fault? = none)
      (hok : (outcome bits libraries true warnings reader [] (some stop)).table.ok = true) :
      False := by
    cases stop with
    | aborted cause => cases hok
    | fault fault => cases hret
  exact
    { libraries := hlibraries
      returned := fun hwhole => by
        cases stop with
        | aborted cause => rfl
        | fault fault => exact absurd rfl (hfault hwhole fault)
      tablesEnd := fun hret hok => (hbad hret hok).elim
      arrayEnds := fun hret hok => (hbad hret hok).elim }

theorem readAt_stands (bits : Option Int) (location : DataDirectory.Location)
    (r : Reader) :
    ctx.OutcomeStands r.data location (readAt ctx bits location r) := by
  rcases ctx.readAt_cases bits location r with ⟨-, hread⟩ | ⟨h0, -, stop, hstop, hread⟩ |
    ⟨h0, -, hended, libraries, reader, stop?, hread, hdescriptors, htables⟩
  · rw [hread]
    apply outcomeStands_of_stopped
    · exact
        { descriptors := fun i l hl => by cases hl
          entry := fun l hl => absurd hl List.not_mem_nil }
    · rintro - fault h
      cases h
  · rw [hread]
    apply outcomeStands_of_stopped
    · apply ctx.librariesStand_of_descriptors r.data h0
      · exact descriptors_unread _
      · intro l hl
        obtain ⟨d, -, rfl⟩ := List.mem_map.1 hl
        exact .inl rfl
    · rintro hwhole fault rfl
      have hlast := (ctx.descriptorsIn_follows r.data location).last
      rw [hstop] at hlast
      exact hwhole.not_raise fault (fault_of_descriptorAt r.data hlast)
  · have hlibraries : ctx.LibrariesStand r.data location libraries := by
      apply ctx.librariesStand_of_descriptors r.data h0 hdescriptors
      intro l hl
      rcases htables.entries ctx r.data hl with hnil | hitems
      · exact .inl hnil
      · exact .inr ⟨_, hitems⟩
    rw [hread]
    cases stop? with
    | some stop =>
      apply outcomeStands_of_stopped ctx r.data hlibraries
      rintro hwhole fault rfl
      obtain ⟨before, l, behind, -, -, hl, -⟩ := htables
      exact hwhole.not_raise fault (fault_of_lookupIn r.data hl.2)
    | none =>
      have hlen : libraries.length = (ctx.descriptorsIn r.data location).items.length := by
        rw [← hdescriptors, List.length_map]
      exact
        { libraries := hlibraries
          returned := fun _ => rfl
          tablesEnd := fun _ _ l hl => ctx.endsInZero_of_readToEnd r.data (htables l hl)
          arrayEnds := fun _ _ => by
            obtain ⟨d, hd⟩ := ctx.arrayEnds_of_descriptorsIn r.data h0 hended
            exact ⟨d, hlen ▸ hd⟩ }

end Context

/-- A directory that is found is read at its place. -/
theorem read_of_located {directories : List DataDirectory} {sections : SectionMap}
    {location : DataDirectory.Location} (r : Reader) (width : Width) (limits : Limits)
    (hlocate : DataDirectory.locate directories sections DataDirectory.importIndex =
      .ok (some location)) :
    read r sections directories (some width.bits) limits =
      readAt ⟨sections, width, limits⟩ (some width.bits) location r := by
  have hwidth : Width.ofBits? (some width.bits) = some width := by cases width <;> rfl
  rw [read, hwidth]
  simp only [hlocate]

/-- A reading comes to a directory that is found, or it collects nothing, whatever the bytes
and the limits are. -/
theorem read_cases (sections : SectionMap) (directories : List DataDirectory)
    (bits : Option Int) :
    (∃ present notes stop?, ∀ r limits, read r sections directories bits limits =
        outcome bits [] present [] r notes stop?)
      ∨ ∃ (width : Width) (location : DataDirectory.Location), Width.ofBits? bits = some width
        ∧ DataDirectory.locate directories sections DataDirectory.importIndex =
          .ok (some location)
        ∧ ∀ r limits, read r sections directories bits limits =
          readAt ⟨sections, width, limits⟩ bits location r := by
  rcases read_ways sections directories bits with ⟨-, hread⟩ |
    ⟨width, hwidth, ⟨e, -, hread⟩ | ⟨-, hread⟩ | ⟨location, hlocate, hread⟩⟩
  · exact .inl ⟨_, _, _, hread⟩
  · exact .inl ⟨_, _, _, hread⟩
  · exact .inl ⟨_, _, _, hread⟩
  · exact .inr ⟨width, location, hwidth, hlocate, hread⟩

/-- The limits that the reading of an import directory meets are whole numbers. -/
structure Limits.Whole (limits : Limits) : Prop where
  libraries : limits.maxLibraries.kind = .whole
  entries : limits.maxEntriesPerLibrary.kind = .whole
  text : limits.maxTextLength.kind = .whole

/-- The limits that hold unless others are set are whole numbers. -/
theorem Limits.whole_default : ({} : Limits).Whole := ⟨rfl, rfl, rfl⟩

/-- Whole limits are no fault, whatever the image is. -/
theorem Limits.Whole.read_returned {limits : Limits} (h : limits.Whole) (r : Reader)
    (sections : SectionMap) (directories : List DataDirectory) (bits : Option Int) :
    (read r sections directories bits limits).fault? = none := by
  rcases read_ways sections directories bits with ⟨-, hread⟩ |
    ⟨width, -, ⟨e, -, hread⟩ | ⟨-, hread⟩ | ⟨location, -, hread⟩⟩
  · rw [hread]
    rfl
  · rw [hread]
    rfl
  · rw [hread]
    rfl
  · rw [hread]
    exact (Context.readAt_stands _ bits _ r).returned ⟨h.libraries, h.entries, h.text⟩

/-- **Reading is standing**: whatever the head was, and whatever else the reading met, the
table of an import directory that is found holds what stands in the bytes at the places
that the directory, the record numbers and the addresses give. -/
theorem read_stands {directories : List DataDirectory} {sections : SectionMap}
    {location : DataDirectory.Location} (r : Reader) (width : Width) (limits : Limits)
    (hlocate : DataDirectory.locate directories sections DataDirectory.importIndex =
      .ok (some location)) :
    Context.OutcomeStands ⟨sections, width, limits⟩ r.data location
      (read r sections directories (some width.bits) limits) := by
  rw [read_of_located r width limits hlocate]
  exact Context.readAt_stands ⟨sections, width, limits⟩ (some width.bits) location r

/-! ### A small directory -/

/-- One library with a symbol by name and one by ordinal, its directory at the very
front. -/
def sample : ByteArray := ⟨#[
  0x30, 0x10, 0, 0, 0, 0, 0, 0, 0, 0, 0, 0, 0x28, 0x10, 0, 0, 0x30, 0x10, 0, 0,
  0, 0, 0, 0, 0, 0, 0, 0, 0, 0, 0, 0, 0, 0, 0, 0, 0, 0, 0, 0,
  0x61, 0x2e, 0x64, 0x6c, 0x6c, 0, 0, 0,
  0x3c, 0x10, 0, 0, 7, 0, 0, 0x80, 0, 0, 0, 0,
  5, 0, 0x66, 0]⟩

/-- The section of `sample`, which is all of it. -/
def sampleSections : SectionMap :=
  [{ virtualAddress := 0x1000, virtualSize := 64, rawOffset := 0, rawSize := 64 }]

/-- Two sections beside that of `sample`; the second one covers no address. -/
def sampleBeside : SectionMap :=
  [{ virtualAddress := 0x2000, virtualSize := 16, rawOffset := 60, rawSize := 4 },
    { virtualAddress := 0x1008, virtualSize := -5, rawOffset := 8, rawSize := -7 }]

/-- The directories of `sample`. -/
def sampleDirectories : List DataDirectory := [{}, { rva := 0x1000, size := 40 }]

/-- The sample is read to its end, with the head anywhere before, and stands. -/
theorem read_stands_sample :
    let result := read ⟨sample, 3⟩ sampleSections sampleDirectories
      (some Width.narrow.bits) {}
    DataDirectory.locate sampleDirectories sampleSections DataDirectory.importIndex =
        .ok (some ⟨1, 0x1000, 40, 0⟩)
      ∧ result.table.ok = true
      ∧ result.table.libraries.map (fun l => (l.name, l.entries)) =
        [("a.dll", [⟨0x103c, false, 0x103c, some 5, "f"⟩,
          ⟨0x80000007, true, 7, none, ""⟩])]
      ∧ Context.OutcomeStands ⟨sampleSections, .narrow, {}⟩ sample ⟨1, 0x1000,
        40, 0⟩ result :=
  ⟨rfl, by decide +kernel, by decide +kernel, read_stands ⟨sample, 3⟩ .narrow {} rfl⟩

end ImageImports.Import

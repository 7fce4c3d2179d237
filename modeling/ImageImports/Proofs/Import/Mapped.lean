import ImageImports.Proofs.Import.Aborted
import ImageImports.Proofs.Import.Appended
import ImageImports.Proofs.Section

/-!
# Reading on in the file and mapping every byte

A reading translates the address where a table begins, and from there on it advances in the
file.  A loader maps every byte from an address of its own.  Here both are shown to find
the same bytes: where sections lie apart, the address of every byte of a record or thunk
that was accepted has, by the section table, the very place that the byte was read from.

What carries this is the bound that both loops keep before they read.  An item that was
accepted ends in front of the end of the section's raw data (`insideAt_of_descriptorAt`,
`insideAt_of_entryAt`), and up to that end translating goes on as the file does
(`SectionMap.Apart.toOffset?_add`).

## Main results

* `Context.LibrariesMapped` — what it means that the bytes of a table are the mapped ones.
* `Import.read_mapped` — they are, for every table that is read over sections that lie
  apart.
-/

namespace ImageImports.Import

/-- A byte behind the address `rva`, whose place in the file is `start`: the next addresses
have the next places.  The byte lies in the raw data of the section of `rva`, and in the
file. -/
structure ByteMapped (sections : SectionMap) (bytes : ByteArray) (rva start n : Int) :
    Prop where
  place : sections.toOffset? (rva + n) = some (start + n)
  inData : ∃ s, sections.sectionAt? rva = some s ∧ s.rawOffset ≤ start + n
    ∧ start + n < s.rawEnd
  inFile : 0 ≤ start + n ∧ start + n < bytes.size

/-! ## What was accepted lies inside -/

/-- The `size` bytes at an offset are there, and in front of the end of the table. -/
structure InsideAt (bytes : ByteArray) (tableEnd? : Option Int) (offset size : Nat) :
    Prop where
  inTable : ∀ tableEnd, tableEnd? = some tableEnd → (offset + size : Int) ≤ tableEnd
  inFile : offset + size ≤ bytes.size

theorem insideAt_of_recordAt {bytes record : ByteArray} {tableEnd? : Option Int}
    {offset size : Nat} (hat : Context.RecordAt bytes tableEnd? offset size record) :
    InsideAt bytes tableEnd? offset size where
  inTable tableEnd h := by
    subst h
    simpa [runsPast] using hat.inTable
  inFile := by
    obtain ⟨-, hle, -⟩ := Bytes.run?_eq_some_iff.1 hat.run
    exact_mod_cast hle

/-- An item of a table that lies inside is mapped byte by byte. -/
theorem InsideAt.mapped {sections : SectionMap} (hapart : sections.Apart)
    {bytes : ByteArray} {rva start : Int} {size i : Nat} (h0 : 0 ≤ start)
    (hstart : sections.toOffset? rva = some start)
    (h : InsideAt bytes (sections.rawEndAt? rva) (start.toNat + size * i) size) {b : Nat}
    (hb : b < size) : ByteMapped sections bytes rva start (size * i + b : Nat) := by
  obtain ⟨s, hs, -, haddress, hplace, -, hend⟩ := SectionMap.section_of_toOffset? hstart
  have hdata : start + (size * i + b : Nat) < s.rawEnd := by
    have hle := h.inTable s.rawEnd hend
    omega
  have hfile := h.inFile
  exact
    { place := hapart.toOffset?_add hs hstart (by omega) hdata
      inData := ⟨s, hs, by omega, hdata⟩
      inFile := ⟨by omega, by omega⟩ }

namespace Context

variable (ctx : Context) (bytes : ByteArray)

theorem insideAt_of_descriptorAt {tableEnd? : Option Int} {offset count : Nat}
    {d : Descriptor} (h : ctx.descriptorAt bytes tableEnd? offset count = .ok d) :
    InsideAt bytes tableEnd? offset Descriptor.recordSize := by
  cases ctx.descriptorStep bytes h with
  | accepted hat htables hname hfew => exact insideAt_of_recordAt hat

theorem insideAt_of_entryAt {library : String} {tableEnd? : Option Int}
    {offset count : Nat} {e : Entry}
    (h : ctx.entryAt bytes library tableEnd? offset count = .ok e) :
    InsideAt bytes tableEnd? offset ctx.width.bytes := by
  cases ctx.entryStep bytes h with
  | accepted hat hzero hfew hhint => exact insideAt_of_recordAt hat

/-! ## The tables of a directory -/

/-- The record of every library and the thunk of every symbol are read from the bytes that
the sections map at their addresses. -/
structure LibrariesMapped (location : DataDirectory.Location) (libraries : List Library) :
    Prop where
  start : ctx.sections.toOffset? location.rva = some location.offset
  descriptor : ∀ (i : Nat) l, libraries[i]? = some l →
    ctx.DescriptorStandsAt bytes (location.offset + Descriptor.recordSize * i) l.descriptor
      ∧ ∀ b < Descriptor.recordSize, ByteMapped ctx.sections bytes location.rva
        location.offset (Descriptor.recordSize * i + b : Nat)
  entry : ∀ l ∈ libraries, ∀ (j : Nat) e, l.entries[j]? = some e →
    ∃ start, ctx.sections.toOffset? l.descriptor.lookupRva = some start
      ∧ ctx.EntryStandsAt bytes (start + ctx.width.bytes * j) e
      ∧ ∀ b < ctx.width.bytes, ByteMapped ctx.sections bytes l.descriptor.lookupRva start
        (ctx.width.bytes * j + b : Nat)

variable {ctx bytes} (hapart : ctx.sections.Apart)

include hapart

/-- The records of an array are mapped byte by byte. -/
theorem descriptorsIn_mapped {location : DataDirectory.Location} (h0 : 0 ≤ location.offset)
    (hstart : ctx.sections.toOffset? location.rva = some location.offset) {i : Nat}
    {d : Descriptor} (hd : (ctx.descriptorsIn bytes location).items[i]? = some d) :
    ctx.DescriptorStandsAt bytes (location.offset + Descriptor.recordSize * i) d
      ∧ ∀ b < Descriptor.recordSize, ByteMapped ctx.sections bytes location.rva
        location.offset (Descriptor.recordSize * i + b : Nat) := by
  have hat := (ctx.descriptorsIn_follows bytes location).getElem? hd
  have hstands := ctx.stands_of_descriptorAt bytes hat
  have hinside := ctx.insideAt_of_descriptorAt bytes hat
  rw [Int.natCast_add, Int.toNat_of_nonneg h0, Int.natCast_mul] at hstands
  exact ⟨hstands, fun b hb => hinside.mapped hapart h0 hstart hb⟩

/-- The thunks of a lookup table are mapped byte by byte. -/
theorem lookupIn_mapped {arrayStart arrayEnd : Int} {d : Descriptor} {j : Nat} {e : Entry}
    (he : (ctx.lookupIn bytes arrayStart arrayEnd d).items[j]? = some e) :
    ∃ start, ctx.sections.toOffset? d.lookupRva = some start
      ∧ ctx.EntryStandsAt bytes (start + ctx.width.bytes * j) e
      ∧ ∀ b < ctx.width.bytes, ByteMapped ctx.sections bytes d.lookupRva start
        (ctx.width.bytes * j + b : Nat) := by
  obtain ⟨start, hstart, h0, hat⟩ := ctx.entryAt_of_lookupIn bytes he
  have hstands := ctx.stands_of_entryAt bytes hat
  have hinside := ctx.insideAt_of_entryAt bytes hat
  rw [Int.natCast_add, Int.toNat_of_nonneg h0, Int.natCast_mul] at hstands
  exact ⟨start, hstart, hstands, fun b hb => hinside.mapped hapart h0 hstart hb⟩

/-- Reading a directory at its place reads the mapped bytes. -/
theorem readAt_mapped (bits : Option Int) {location : DataDirectory.Location} (r : Reader)
    (hstart : ctx.sections.toOffset? location.rva = some location.offset) :
    ctx.LibrariesMapped r.data location (readAt ctx bits location r).table.libraries := by
  obtain ⟨hdescriptors, hentries⟩ := ctx.libraries_readAt bits location r
  constructor
  · exact hstart
  · intro i l hl
    by_cases hin : 0 ≤ location.offset ∧ location.offset ≤ r.data.size
    · have hd : (ctx.descriptorsIn r.data location).items[i]? = some l.descriptor := by
        rw [← ctx.descriptors_readAt bits hin.1 hin.2, List.getElem?_map, hl,
          Option.map_some]
      exact descriptorsIn_mapped hapart hin.1 hstart hd
    · rw [readAt_of_outside ctx hin] at hl
      cases hl
  · intro l hl j e he
    rcases hentries l hl with hnil | ⟨arrayEnd, hitems⟩
    · cases hnil ▸ he
    · exact lookupIn_mapped hapart (hitems ▸ he)

end Context

/-! ## The whole reading -/

variable {sections : SectionMap} {directories : List DataDirectory} {bits : Option Int}

/-- A directory that is found is at the place of its address. -/
theorem toOffset?_of_locate {index : Int} {location : DataDirectory.Location}
    (h : DataDirectory.locate directories sections index = .ok (some location)) :
    sections.toOffset? location.rva = some location.offset := by
  rw [DataDirectory.locate] at h
  split at h
  · cases h
  · split at h
    · cases h
    · split at h
      · cases h
      · next offset hoffset =>
        cases h
        exact hoffset

/-- **Reading on is mapping**: over sections that lie apart, the record of every library
and the thunk of every symbol in a table are read from the bytes that the sections map at
their addresses.  None of these bytes lies outside the raw data of the section that its
table starts in, or outside the file. -/
theorem read_mapped (hapart : sections.Apart) (r : Reader)
    (directories : List DataDirectory) (bits : Option Int) (limits : Limits) :
    let t := (read r sections directories bits limits).table
    t.libraries = []
      ∨ AtDirectory sections directories bits limits fun ctx location =>
        ctx.LibrariesMapped r.data location t.libraries := by
  intro t
  rcases read_cases sections directories bits with
    ⟨present, notes, stop?, hread⟩ | ⟨width, location, hwidth, hlocate, hread⟩
  · left
    simp only [t, hread]
    rfl
  · right
    refine ⟨width, location, width_of_ofBits? hwidth, hlocate, ?_⟩
    simp only [t, hread]
    exact Context.readAt_mapped hapart _ r (toOffset?_of_locate hlocate)

/-- The sample beside two other sections: its one record and two thunks are mapped. -/
theorem read_mapped_sample :
    let beside := sampleSections ++ sampleBeside
    let t := (read ⟨sample, 0⟩ beside sampleDirectories (some 32) {}).table
    SectionMap.Apart beside
      ∧ t.libraries.map (·.entries.map (·.label)) = [["f", "#7"]]
      ∧ (t.libraries = []
        ∨ AtDirectory beside sampleDirectories (some 32) {} fun ctx location =>
          ctx.LibrariesMapped sample location t.libraries) :=
  ⟨by decide, by decide +kernel,
    read_mapped (by decide) ⟨sample, 0⟩ sampleDirectories (some 32) {}⟩

end ImageImports.Import

import ImageImports.Proofs.Import.Contents
import ImageImports.Proofs.Import.Turns
import ImageImports.Proofs.Section

/-!
# The order of the sections

A reading asks the section table where an address lies in the file and where the data of its
section ends, and nothing else.  So two tables that find the same section for every address
give the same reading, in every respect: the table, the notes, and the place where the head
is left.  Sections that lie apart are found in any order.

## Main results

* `Context.readDescriptors_congr`, `Context.readLookupTables_congr` — each phase depends on
  the sections by their translation only.
* `Import.read_congr` — so does the whole reading.
* `Import.read_perm` — where sections lie apart, their order does not matter.
-/

namespace ImageImports.Import

namespace Context

/-- What the loops know, with other sections. -/
def withSections (ctx : Context) (sections : SectionMap) : Context := { ctx with sections }

section

variable (ctx : Context)

/-! ## The loops depend on the translation only -/

variable {other : SectionMap} (h : ∀ rva, other.sectionAt? rva = ctx.sections.sectionAt? rva)

include h

theorem nameIn_congr (bytes : ByteArray) (d : Descriptor) :
    (ctx.withSections other).nameIn bytes d = ctx.nameIn bytes d := by
  have hplace : (ctx.withSections other).nameOffset? d = ctx.nameOffset? d := by
    rw [nameOffset?, nameOffset?, withSections, SectionMap.toOffset?_congr h]
  rw [nameIn, nameIn, libraryName, libraryName, hplace]
  rfl

theorem hintNameIn_congr (bytes : ByteArray) (library : String) (e : Entry) :
    (ctx.withSections other).hintNameIn bytes library e = ctx.hintNameIn bytes library e := by
  rw [hintNameIn, hintNameIn, withHintName, withHintName, withSections,
    SectionMap.toOffset?_congr h]
  rfl

theorem descriptorTurn_congr (tableEnd? : Option Int) :
    (ctx.withSections other).descriptorTurn tableEnd? = ctx.descriptorTurn tableEnd? := by
  funext r count
  simp only [descriptorTurn, acceptDescriptor, ctx.nameIn_congr h]
  rfl

theorem entryTurn_congr (library : String) (tableEnd? : Option Int) :
    (ctx.withSections other).entryTurn library tableEnd? = ctx.entryTurn library tableEnd? := by
  funext r count
  have hwidth : (ctx.withSections other).width = ctx.width := rfl
  simp only [entryTurn, acceptThunk, ctx.hintNameIn_congr h, hwidth]
  rfl

theorem readDescriptors_congr (tableEnd? : Option Int) (r : Reader) (count : Nat) :
    (ctx.withSections other).readDescriptors tableEnd? r count =
      ctx.readDescriptors tableEnd? r count := by
  have hloop := (ctx.withSections other).recordLoop_descriptors tableEnd?
  rw [ctx.descriptorTurn_congr h] at hloop
  rw [hloop.unique (ctx.recordLoop_descriptors tableEnd?)]

theorem readEntries_congr (library : String) (tableEnd? : Option Int) (r : Reader)
    (count : Nat) :
    (ctx.withSections other).readEntries library tableEnd? r count =
      ctx.readEntries library tableEnd? r count := by
  have hloop := (ctx.withSections other).recordLoop_entries library tableEnd?
  rw [ctx.entryTurn_congr h] at hloop
  rw [hloop.unique (ctx.recordLoop_entries library tableEnd?)]

variable (arrayStart arrayEnd : Int)

theorem readLookupTable_congr (r : Reader) (d : Descriptor) :
    (ctx.withSections other).readLookupTable arrayStart arrayEnd r d =
      ctx.readLookupTable arrayStart arrayEnd r d := by
  have hsections : (ctx.withSections other).sections = other := rfl
  simp only [readLookupTable, ctx.readEntries_congr h, hsections,
    SectionMap.toOffset?_congr h, SectionMap.rawEndAt?_congr h]

theorem readLookupTables_congr (r : Reader) (ds : List Descriptor) :
    (ctx.withSections other).readLookupTables arrayStart arrayEnd r ds =
      ctx.readLookupTables arrayStart arrayEnd r ds := by
  induction ds generalizing r with
  | nil => rfl
  | cons d rest ih =>
    simp only [readLookupTables, ctx.readLookupTable_congr h, ih]

theorem readAt_congr (bits : Option Int) (location : DataDirectory.Location) (r : Reader) :
    readAt (ctx.withSections other) bits location r = readAt ctx bits location r := by
  have hsections : (ctx.withSections other).sections = other := rfl
  simp only [readAt, ctx.readDescriptors_congr h, ctx.readLookupTables_congr h, hsections,
    SectionMap.rawEndAt?_congr h]

end

end Context

/-! ## The whole reading -/

variable {sections other : SectionMap}

/-- A reading depends on the sections by what they find for an address only. -/
theorem read_congr (h : ∀ rva, other.sectionAt? rva = sections.sectionAt? rva)
    (r : Reader) (directories : List DataDirectory) (bits : Option Int) (limits : Limits) :
    read r other directories bits limits = read r sections directories bits limits := by
  have hlocate : DataDirectory.locate directories other DataDirectory.importIndex =
      DataDirectory.locate directories sections DataDirectory.importIndex := by
    simp only [DataDirectory.locate, SectionMap.toOffset?_congr h]
  have hreadAt (width : Width) (location : DataDirectory.Location) :
      readAt ⟨other, width, limits⟩ bits location r =
        readAt ⟨sections, width, limits⟩ bits location r :=
    Context.readAt_congr ⟨sections, width, limits⟩ h bits location r
  simp only [read, hlocate, hreadAt]

/-- Where the sections lie apart, another order of them finds the same section, the same
place in the file and the same end of the data for every address, and a reading does not
notice it: the table, the notes and the head it leaves are the same. -/
theorem read_perm (hapart : sections.Apart) (hperm : sections.Perm other) (r : Reader)
    (directories : List DataDirectory) (bits : Option Int) (limits : Limits) :
    (∀ rva, other.sectionAt? rva = sections.sectionAt? rva
        ∧ other.toOffset? rva = sections.toOffset? rva
        ∧ other.rawEndAt? rva = sections.rawEndAt? rva)
      ∧ read r other directories bits limits = read r sections directories bits limits := by
  have hfound := hapart.sectionAt?_perm hperm
  exact ⟨fun rva => ⟨hfound rva, SectionMap.toOffset?_congr hfound rva,
    SectionMap.rawEndAt?_congr hfound rva⟩, read_congr hfound r directories bits limits⟩

/-- The sections of the sample in two orders: both readings find the two symbols. -/
theorem read_perm_sample :
    let before := sampleSections ++ sampleBeside
    let behind := sampleBeside ++ sampleSections
    SectionMap.Apart before
      ∧ before.Perm behind
      ∧ before ≠ behind
      ∧ (read ⟨sample, 0⟩ behind sampleDirectories (some 32) {}).table.libraries.map
        (·.entries.map (·.label)) = [["f", "#7"]]
      ∧ read ⟨sample, 0⟩ behind sampleDirectories (some 32) {} =
        read ⟨sample, 0⟩ before sampleDirectories (some 32) {} :=
  ⟨by decide, List.perm_append_comm, by decide, by decide +kernel,
    (read_perm (by decide) List.perm_append_comm ⟨sample, 0⟩ sampleDirectories (some 32)
      {}).2⟩

end ImageImports.Import

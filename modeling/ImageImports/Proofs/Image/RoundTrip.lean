import ImageImports.Proofs.Image.Header
import ImageImports.Proofs.Image.Section

/-!
# Laying an image out and taking it apart

An image that is laid out from a list of libraries is accepted, with the width that was
asked for, and its import table holds those libraries and no others, in their order.

The headers stand at fixed offsets, so each of the reading steps finds the record that was
put there; what remains of them is the one section, through which every address of the
directory leads to the bytes behind the headers.

## Main results

* `Layout.parse_image` — laying out and taking apart gives back what was asked for.
-/

namespace ImageImports.Layout

open Import (Width)
open Bytes (Holds)

/-! ## Records that are held -/

section Records

variable {d : Dissection} {offset : Nat}

/-- A mark that is held is found. -/
theorem hasMark_of_holds {mark : List UInt8} (h : Holds d.reader.data offset mark)
    (hmark : 0 < mark.length) : d.hasMark offset mark = true := by
  rw [Dissection.hasMark, Dissection.record?_eq_run? d offset hmark, h.run? hmark]
  simp

/-- A record that is held is found. -/
theorem record?_of_holds {chunk : List UInt8} {size : Nat}
    (h : Holds d.reader.data offset chunk)
    (hlen : chunk.length = size) (hsize : 0 < size) :
    d.record? offset size = some ⟨chunk.toArray⟩ := by
  subst hlen
  rw [Dissection.record?_eq_run? d offset hsize, h.run? hsize]

/-- A field of a record is the number that was put there. -/
theorem field_of_holds {bytes : ByteArray} {chunk : List UInt8} {start width n : Nat}
    (h : Holds bytes offset chunk)
    (hdigits : Holds bytes (offset + start) (digits width n))
    (hle : start + width ≤ chunk.length) (hwidth : 0 < width) (hfits : n < 256 ^ width) :
    Bytes.field ⟨chunk.toArray⟩ start width = n := by
  have hrun := h.run? (by omega)
  have hfield := Bytes.number?_of_run? hrun start width hle
  have hnumber := hdigits.number? hwidth hfits
  rw [Int.natCast_add, hfield] at hnumber
  injection hnumber with hnumber
  exact_mod_cast hnumber

end Records

/-! ## Where the headers stand -/

theorem length_directories (size : Nat) : (directories size).length = 128 := by
  simp [directories, List.range_succ]

theorem length_standardPart (width : Width) (rawSize : Nat) :
    (standardPart width rawSize).length =
      match width with | .narrow => 28 | .wide => 24 := by
  cases width <;> simp [standardPart]

theorem length_systemPart (width : Width) (imageSize : Nat) :
    (systemPart width imageSize).length =
      match width with | .narrow => 68 | .wide => 88 := by
  cases width <;> simp [systemPart, Width.bytes]

/-- The number of bytes of the optional header. -/
def optionalSize : Width → Nat
  | .narrow => 224
  | .wide => 240

theorem length_optionalHeader (width : Width) (directorySize size rawSize : Nat) :
    (optionalHeader width directorySize size rawSize).length = optionalSize width := by
  simp only [optionalHeader, List.length_append, length_standardPart, length_systemPart,
    length_directories]
  cases width <;> rfl

theorem length_fileHeader (width : Width) (optionalSize : Nat) :
    (fileHeader width optionalSize).length = 20 := by
  simp [fileHeader]

theorem length_sectionHeader (size rawSize : Nat) :
    (sectionHeader size rawSize).length = 40 := by
  simp [sectionHeader]

theorem length_headers (width : Width) (directorySize size rawSize : Nat) :
    (headers width directorySize size rawSize).length = 128 + optionalSize width := by
  simp only [headers, List.length_append, length_optionalHeader, length_fileHeader,
    length_sectionHeader, Bytes.length_record_cons, Bytes.record_nil,
      List.length_replicate,
    Header.dosMagic, Header.signature, List.length_cons, List.length_nil]
  omega

/-- The headers of a section of `size` bytes, `rawSize` when filled up, each at its
place. -/
structure HeadersStand (width : Width) (directorySize size rawSize : Nat)
    (bytes : ByteArray) : Prop where
  mark : Holds bytes 0 Header.dosMagic
  signatureOffset : Holds bytes Header.signatureOffsetAt (record [(64, 4)])
  signature : Holds bytes 64 Header.signature
  file : Holds bytes 68 (fileHeader width (optionalSize width))
  optional : Holds bytes 88 (optionalHeader width directorySize size rawSize)
  sectionRow : Holds bytes (88 + optionalSize width) (sectionHeader size rawSize)

theorem headersStand_of_holds {bytes : ByteArray} {width : Width}
    {directorySize size rawSize : Nat}
    (h : Holds bytes 0 (headers width directorySize size rawSize)) :
    HeadersStand width directorySize size rawSize bytes := by
  simp only [headers, length_optionalHeader, Bytes.holds_append_iff, List.length_append,
    length_fileHeader, Bytes.length_record_cons, Bytes.record_nil, List.length_replicate,
    Header.dosMagic, Header.signature, List.length_cons, List.length_nil,
      Nat.zero_add, Nat.add_zero,
    Nat.reduceAdd] at h
  obtain ⟨⟨⟨⟨⟨⟨hmark, -⟩, hoffset⟩, hsignature⟩, hfile⟩, hoptional⟩, hsection⟩ := h
  exact ⟨hmark, hoffset, hsignature, hfile, hoptional, hsection⟩

/-! ## Reading the headers -/

variable {width : Width} {directorySize size rawSize : Nat}

/-- The file header is found behind the signature, and announces one section. -/
theorem readFile?_of_stands {d : Dissection}
    (h : HeadersStand width directorySize size rawSize d.reader.data) :
    ∃ file : Header.File, d.readFile? = some { d with signatureAt := 64, file }
      ∧ file.sectionCount = 1 ∧ file.optionalSize = optionalSize width := by
  have hlarge : Header.minimumSize ≤ d.reader.size := by
    have hlen := h.signature.length_le
    rw [Bytes.length_after] at hlen
    simp only [Header.signature, List.length_cons, List.length_nil] at hlen
    show 64 ≤ d.reader.data.size
    omega
  have hfile := h.file
  rw [fileHeader] at hfile
  simp only [Bytes.holds_record_cons] at hfile
  obtain ⟨-, hcount, -, -, -, hoptional, -⟩ := hfile
  have hoptionalSize : optionalSize width < 256 ^ 2 := by
    cases width <;> decide
  have hlen := length_fileHeader width (optionalSize width)
  refine ⟨.decode ⟨(fileHeader width (optionalSize width)).toArray⟩, ?_, ?_, ?_⟩
  · have hvalue : Bytes.littleEndian ⟨(record [(64, 4)]).toArray⟩ = 64 := by decide
    have hrecords : d.FileRecords ⟨(record [(64, 4)]).toArray⟩
        ⟨(fileHeader width (optionalSize width)).toArray⟩ :=
      { large := hlarge
        mark := hasMark_of_holds h.mark (by decide)
        offset := record?_of_holds h.signatureOffset rfl (by decide)
        signature := by
          rw [hvalue]
          exact hasMark_of_holds h.signature (by decide)
        file := by
          rw [hvalue]
          exact record?_of_holds h.file hlen (by decide) }
    refine Dissection.readFile?_eq_some_iff.2 ⟨_, _, hrecords, ?_⟩
    rw [Dissection.withFile, hvalue]
  · dsimp only [Header.File.decode]
    exact field_of_holds h.file hcount (by omega) (by decide) (by decide)
  · dsimp only [Header.File.decode]
    exact field_of_holds h.file hoptional (by omega) (by decide) hoptionalSize

/-- Where the second part of the optional header begins, and where the directories do. -/
theorem optionalParts_of_holds {bytes : ByteArray}
    (h : Holds bytes 88 (optionalHeader width directorySize size rawSize))
    {layout : Header.Layout} (hlayout : Header.layout? (magic width) = some layout) :
    ∃ imageSize, Holds bytes 88 (standardPart width rawSize)
      ∧ Holds bytes (88 + layout.standardSize) (systemPart width imageSize)
      ∧ Holds bytes (88 + layout.standardSize + layout.systemSize)
        (directories directorySize) := by
  simp only [optionalHeader, Bytes.holds_append_iff, List.length_append,
    length_standardPart, length_systemPart] at h
  obtain ⟨⟨hstandard, hsystem⟩, hdirectories⟩ := h
  cases width with
  | narrow =>
    injection hlayout with hlayout
    subst hlayout
    exact ⟨_, hstandard, hsystem, hdirectories⟩
  | wide =>
    injection hlayout with hlayout
    subst hlayout
    exact ⟨_, hstandard, hsystem, hdirectories⟩

/-- The layout that a width has. -/
def layoutOf : Width → Header.Layout
  | .narrow => Header.narrowLayout
  | .wide => Header.wideLayout

theorem layout?_magic (width : Width) :
    Header.layout? (magic width) = some (layoutOf width) := by
  cases width <;> rfl

/-- The optional header begins with its number. -/
theorem magic_of_holds {bytes : ByteArray} {offset : Nat}
    (h : Holds bytes offset (standardPart width rawSize)) :
    Holds bytes offset (digits 2 (magic width)) := by
  unfold standardPart at h
  exact (Bytes.holds_record_cons.1 h.left).1

/-- The second part of the optional header says how many directories there are. -/
theorem directoryCount_of_holds {bytes : ByteArray} {offset imageSize : Nat}
    (h : Holds bytes offset (systemPart width imageSize)) :
    Bytes.field ⟨(systemPart width imageSize).toArray⟩
      (layoutOf width).directoryCountAt 4 = 16 := by
  have hlen := length_systemPart width imageSize
  have hfields := h
  rw [systemPart] at hfields
  simp only [Bytes.holds_record_cons, Nat.add_assoc] at hfields
  obtain ⟨-, -, -, -, -, -, -, -, -, -, -, -, -, -, -, -, -, -, -, -, hcount, -⟩ :=
    hfields
  cases width with
  | narrow => exact field_of_holds h hcount (by rw [hlen]; decide) (by decide) (by decide)
  | wide => exact field_of_holds h hcount (by rw [hlen]; decide) (by decide) (by decide)

/-- The second directory is that of the imports. -/
theorem importDirectory_of_holds {d : Dissection} {offset : Nat}
    (h : Holds d.reader.data offset (directories directorySize))
    (hfits : directorySize < 2 ^ 32) :
    (d.readDirectories offset 16)[1]? =
    some ⟨(sectionRva : Nat), (directorySize : Nat)⟩ := by
  have hsplit : directories directorySize =
      record [(0, 4), (0, 4)] ++ record [(sectionRva, 4), (directorySize, 4)]
        ++ record (List.replicate 28 (0, 4)) := by
    simp [directories, record, List.range_succ]
  rw [hsplit] at h
  have hdirectory := h.left.right
  rw [show (record [(0, 4), (0, 4)]).length = 8 from rfl] at hdirectory
  have hlen : (record [(sectionRva, 4), (directorySize, 4)]).length = 8 := by simp
  have hrecord := record?_of_holds hdirectory hlen (by decide)
  have hfields := hdirectory
  simp only [Bytes.holds_record_cons] at hfields
  obtain ⟨hrva, hsize, -⟩ := hfields
  have hrvaField :
      Bytes.field ⟨(record [(sectionRva, 4), (directorySize, 4)]).toArray⟩ 0 4 =
        sectionRva :=
    field_of_holds hdirectory hrva (by omega) (by decide) (by decide)
  have hsizeField :
      Bytes.field ⟨(record [(sectionRva, 4), (directorySize, 4)]).toArray⟩ 4 4 =
        directorySize :=
    field_of_holds hdirectory hsize (by omega) (by decide) hfits
  rw [Dissection.readDirectories, List.getElem?_map]
  have hread : d.record? (offset + 1 * Header.directorySize) Header.directorySize =
      some ⟨(record [(sectionRva, 4), (directorySize, 4)]).toArray⟩ := hrecord
  have hindex : (List.range (min 16 Header.maxDirectories))[1]? = some 1 := by decide
  rw [hindex, Option.map_some]
  simp only [hread, Header.decodeDirectory, hrvaField, hsizeField]

/-- The optional header is read completely. -/
theorem readOptional_of_stands {d : Dissection} (hsignature : d.signatureAt = 64)
    (hoptional : d.file.optionalSize = optionalSize width)
    (h : HeadersStand width directorySize size rawSize d.reader.data)
    (hfits : directorySize < 2 ^ 32) :
    ∃ (optional : Header.Optional) (directories : List DataDirectory),
      d.readOptional = ({ d with optional, directories, optionalRead := true }, [])
        ∧ optional.magic = magic width
        ∧ directories[1]? = some ⟨(sectionRva : Nat), (directorySize : Nat)⟩ := by
  obtain ⟨imageSize, hstandard, hsystem, hdirectories⟩ :=
    optionalParts_of_holds h.optional (layout?_magic width)
  have hnonzero : ¬ d.file.optionalSize = 0 := by
    rw [hoptional]
    cases width <;> decide
  have hat : d.optionalAt = 88 := by
    rw [Dissection.optionalAt, hsignature]
    rfl
  have hmagic := record?_of_holds (magic_of_holds hstandard)
    (Bytes.length_digits ..) (by decide)
  have hvalue : Bytes.littleEndian ⟨(digits 2 (magic width)).toArray⟩ = magic width := by
    cases width <;> decide
  have hstandardRecord : d.record? 88 (layoutOf width).standardSize =
      some ⟨(standardPart width rawSize).toArray⟩ := by
    cases width
    · exact record?_of_holds hstandard (length_standardPart ..) (by decide)
    · exact record?_of_holds hstandard (length_standardPart ..) (by decide)
  have hsystemRecord : d.record? (88 + (layoutOf width).standardSize)
      (layoutOf width).systemSize =
      some ⟨(systemPart width imageSize).toArray⟩ := by
    cases width
    · exact record?_of_holds hsystem (length_systemPart ..) (by decide)
    · exact record?_of_holds hsystem (length_systemPart ..) (by decide)
  have hrecords : d.OptionalRecords (layoutOf width) ⟨(digits 2 (magic width)).toArray⟩
      ⟨(standardPart width rawSize).toArray⟩ ⟨(systemPart width imageSize).toArray⟩ :=
    { declared := hnonzero
      magic := by rw [hat, hmagic]
      known := by rw [hvalue, layout?_magic]
      standard := by rw [hat, hstandardRecord]
      system := by rw [hat, hsystemRecord] }
  refine ⟨_, _, hrecords.readOptional_eq, hvalue, ?_⟩
  dsimp only [Header.Optional.decode]
  rw [Dissection.directoriesAt, hat, directoryCount_of_holds hsystem]
  exact importDirectory_of_holds hdirectories hfits

/-- The section table is the one row that was put there. -/
theorem readSectionTable_of_stands {d : Dissection} (hsignature : d.signatureAt = 64)
    (hcount : d.file.sectionCount = 1)
    (hoptional : d.file.optionalSize = optionalSize width)
    (h : HeadersStand width directorySize size rawSize d.reader.data)
    (hsize : size < 2 ^ 32) (hraw : rawSize < 2 ^ 32) :
    ∃ s : Section, d.readSectionTable = ({ d with sections := d.sections ++ [s] }, [])
      ∧ s.virtualAddress = (sectionRva : Nat) ∧ s.virtualSize = (size : Nat)
      ∧ s.rawSize = (rawSize : Nat) ∧ s.rawOffset = (fileUnit : Nat) := by
  have hlen := length_sectionHeader size rawSize
  have hfields := h.sectionRow
  rw [sectionHeader, Bytes.holds_append_iff] at hfields
  simp only [Bytes.holds_record_cons, List.length_cons, List.length_nil,
    Nat.add_assoc] at hfields
  obtain ⟨-, hvirtual, haddress, hrawSize, hrawOffset, -⟩ := hfields
  have hat : d.optionalAt = 88 := by
    rw [Dissection.optionalAt, hsignature]
    rfl
  have hrecord := record?_of_holds h.sectionRow hlen (by decide)
  have hfound : d.readSections (d.optionalAt + d.file.optionalSize) d.file.sectionCount =
      [Header.decodeSection ⟨(sectionHeader size rawSize).toArray⟩] := by
    rw [hat, hoptional, hcount, Dissection.readSections,
      show d.record? (88 + optionalSize width) Header.sectionSize = _ from hrecord]
    rfl
  refine ⟨Header.decodeSection ⟨(sectionHeader size rawSize).toArray⟩, ?_, ?_, ?_, ?_, ?_⟩
  · rw [Dissection.readSectionTable, hfound, hcount]
    rfl
  · exact congrArg Nat.cast
      (field_of_holds h.sectionRow haddress (by omega) (by decide) (by decide))
  · exact congrArg Nat.cast
      (field_of_holds h.sectionRow hvirtual (by omega) (by decide) hsize)
  · exact congrArg Nat.cast
      (field_of_holds h.sectionRow hrawSize (by omega) (by decide) hraw)
  · exact congrArg Nat.cast
      (field_of_holds h.sectionRow hrawOffset (by omega) (by decide) (by decide))

/-! ## The section in memory -/

/-- Through the section, the addresses of its data lead to the bytes behind the
headers. -/
theorem loaded_of_section {s : Section} (hsize : size ≤ rawSize)
    (haddress : s.virtualAddress = (sectionRva : Nat))
    (hvirtual : s.virtualSize = (size : Nat)) (hrawSize : s.rawSize = (rawSize : Nat))
    (hrawOffset : s.rawOffset = (fileUnit : Nat)) :
    Loaded ⟨[s], width, {}⟩ rawSize := by
  have hcovers (pos : Nat) (hpos : pos < rawSize) :
      SectionMap.sectionAt? [s] (sectionRva + pos : Nat) = some s := by
    have hin : s.covers (sectionRva + pos : Nat) = true := by
      simp only [Section.covers, Section.virtualEnd, haddress, hvirtual, hrawSize,
        Bool.and_eq_true, decide_eq_true_eq]
      omega
    exact List.find?_cons_of_pos (p := fun t : Section => t.covers _) hin
  exact
    { limits := rfl
      offset := by
        intro pos hpos
        refine SectionMap.toOffset?_eq_some_iff.2 ⟨s, hcovers pos hpos, ?_, ?_⟩
        · rw [haddress, hrawSize]
          omega
        · rw [haddress, hrawOffset]
          omega
      rawEnd := by
        intro pos hpos
        show (SectionMap.sectionAt? [s] (sectionRva + pos : Nat)).map Section.rawEnd = _
        rw [hcovers pos hpos, Option.map_some, Section.rawEnd, hrawOffset, hrawSize]
        rfl }

/-! ## The whole image -/

/-- An image whose parts are all read is accepted, and keeps what its parts gave. -/
theorem parse_of_read {d d₁ d₂ d₃ : Dissection} {limits : Import.Limits}
    {optionalNotes sectionNotes : List Log.Record} (hfile : d.readFile? = some d₁)
    (hoptional : d₁.readOptional = (d₂, optionalNotes))
    (hsections : d₂.readSectionTable = (d₃, sectionNotes)) {bits : Option Int}
    (hbits : d₃.bits? = bits)
    (hfault : (Import.read d₃.reader d₃.sections d₃.directories bits limits).fault? =
      none) :
    (d.parse limits).accepted = true ∧ (d.parse limits).fault? = none
      ∧ (d.parse limits).dissection.bits? = bits
      ∧ (d.parse limits).dissection.imports =
        (Import.read d₃.reader d₃.sections d₃.directories bits limits).table := by
  subst hbits
  have hrest : d₁.readRest = d₃ := by rw [Dissection.readRest, hoptional, hsections]
  rw [← hrest] at hfault ⊢
  obtain ⟨haccepted, hret, hdissection⟩ := Dissection.parse_of_readFile? hfile hfault
  rw [hdissection]
  exact ⟨haccepted, hret, rfl, rfl⟩

theorem length_padded (unit : Nat) (bytes : List UInt8) :
    (padded unit bytes).length = bytes.length + fill unit bytes.length := by
  rw [padded, List.length_append, List.length_replicate]

/-- The headers stand at the front, and the section's data behind them. -/
theorem holds_image (width : Width) (plans : List Plan) :
    HeadersStand width (arraySize plans) (content width plans).length
        (padded fileUnit (content width plans)).length (image width plans)
      ∧ Holds (image width plans) fileUnit (content width plans) := by
  have hwhole := Bytes.holds_whole (padded fileUnit (headers width (arraySize plans)
    (content width plans).length (padded fileUnit (content width plans)).length)
      ++ padded fileUnit (content width plans))
  have hlen : (padded fileUnit
      (headers width (arraySize plans) (content width plans).length
        (padded fileUnit (content width plans)).length)).length = fileUnit := by
    rw [length_padded, length_headers]
    cases width <;> rfl
  have hdata := hwhole.right
  rw [hlen, Nat.zero_add] at hdata
  exact ⟨headersStand_of_holds hwhole.left.left, hdata.left⟩

/-- A symbol came back as the entry number `i`. -/
def Symbol.IsEntry (i : Nat) (e : Import.Entry) : Symbol → Prop
  | .named name => e.isOrdinal = false ∧ e.hint = some (i : Int) ∧ e.name = name
    ∧ e.label = name
  | .numbered ordinal =>
    e.isOrdinal = true ∧ e.payload = ordinal ∧ e.label = "#" ++ toString ordinal

/-- A library came back, with its symbols in their order and no others. -/
structure Plan.IsLibrary (p : Plan) (l : Import.Library) : Prop where
  name : l.name = p.name
  count : l.entries.length = p.symbols.length
  symbols : ∀ (i : Nat) s e, p.symbols[i]? = some s →
    l.entries[i]? = some e → s.IsEntry i e

theorem isEntry_entry (width : Width) (place i : Nat) (s : Symbol) :
    s.IsEntry i (entry width place i s) := by
  cases s with
  | named name => exact ⟨rfl, rfl, rfl, rfl⟩
  | numbered ordinal => exact ⟨rfl, rfl, rfl⟩

/-- Every symbol comes back at its number. -/
theorem isEntry_of_entries {width : Width} {symbols : List Symbol} {place i j : Nat}
    {s : Symbol} {e : Import.Entry} (hs : symbols[j]? = some s)
    (he : (entries width place i symbols)[j]? = some e) : s.IsEntry (i + j) e := by
  induction symbols generalizing place i j with
  | nil => cases hs
  | cons t rest ih =>
    rw [entries] at he
    cases j with
    | zero =>
      injection hs with hs
      injection he with he
      rw [← hs, ← he]
      exact isEntry_entry ..
    | succ j =>
      rw [List.getElem?_cons_succ] at hs he
      have hrest := ih hs he
      rwa [Nat.succ_add_eq_add_succ] at hrest

/-- Every library comes back at its number. -/
theorem isLibrary_of_libraries {width : Width} {plans : List Plan} {i : Nat} {p : Plan}
    {l : Import.Library} (hp : plans[i]? = some p)
    (hl : (libraries width plans)[i]? = some l) :
    p.IsLibrary l := by
  rw [libraries, List.getElem?_map] at hl
  obtain ⟨q, hq, rfl⟩ := Option.map_eq_some_iff.1 hl
  have hplan : q.plan = p := by
    have hmap : ((placed width plans).map (·.plan))[i]? = some q.plan := by
      rw [List.getElem?_map, hq, Option.map_some]
    rw [placed, plans_place, hp] at hmap
    injection hmap with hmap
    exact hmap.symm
  subst hplan
  exact
    { name := rfl
      count := length_entries ..
      symbols := by
        intro j s e hs he
        have hentry := isEntry_of_entries hs he
        rwa [Nat.zero_add] at hentry }

/-- The directory is where the headers say. -/
theorem locate_of_section {directories : List DataDirectory} {sections : SectionMap}
    (hdirectory : directories[1]? = some ⟨(sectionRva : Nat), (directorySize : Nat)⟩)
    (hload : Loaded ⟨sections, width, {}⟩ rawSize) (hraw : 0 < rawSize) :
    DataDirectory.locate directories sections DataDirectory.importIndex =
      .ok (some ⟨1, (sectionRva : Nat), (directorySize : Nat), (fileUnit : Nat)⟩) := by
  have hoffset : sections.toOffset? (sectionRva : Nat) = some (fileUnit : Nat) := by
    have hzero := hload.offset 0 hraw
    rwa [Nat.add_zero, Nat.add_zero] at hzero
  have hentry : DataDirectory.entry? directories DataDirectory.importIndex =
      some ⟨(sectionRva : Nat), (directorySize : Nat)⟩ := hdirectory
  have hne : ¬ ((sectionRva : Nat) : Int) = 0 := by decide
  simp only [DataDirectory.locate, hentry, hne, if_false, hoffset]
  rfl

/-- The import directory of a laid out image is read to its end, and holds the
libraries. -/
theorem read_image {width : Width} {plans : List Plan} (hfit : Fit width plans)
    {directories : List DataDirectory} {sections : SectionMap}
    (hload : Loaded ⟨sections, width, {}⟩ (padded fileUnit (content width plans)).length)
    (hdirectory : directories[1]? = some ⟨(sectionRva : Nat), (arraySize plans : Nat)⟩) :
    let result := Import.read ⟨image width plans, 0⟩ sections directories
      (some width.bits) {}
    result.fault? = none ∧ result.table.error = none
      ∧ result.table.libraries = libraries width plans := by
  intro result
  have hcontent := (holds_image width plans).2
  have hraw := length_padded fileUnit (content width plans)
  have harray := arraySize_le_length_content width plans
  have harrayPos : 0 < arraySize plans := by
    rw [arraySize]
    omega
  have hlocate := locate_of_section hdirectory hload (by omega)
  have hle : (content width plans).length ≤
      (padded fileUnit (content width plans)).length := by
    omega
  have hstands : Import.Context.DirectoryStands ⟨sections, width, {}⟩
      (image width plans)
      ⟨1, (sectionRva : Nat), (arraySize plans : Nat), (fileUnit : Nat)⟩
      (libraries width plans) := directoryStands hfit hload hle hcontent rfl rfl
  have hread := Import.read_of_located ⟨image width plans, 0⟩ width {} hlocate
  obtain ⟨hfault, herror, -, hlibraries⟩ :=
    Import.Context.readAt_of_directoryStands (r := ⟨image width plans, 0⟩)
      ⟨sections, width, {}⟩
      (some width.bits) hstands
  rw [← hread] at hfault herror hlibraries
  exact ⟨hfault, herror, hlibraries⟩

/-- **Round trip**: an image laid out from libraries is accepted with its width, its
imports are read to their end, and the libraries come back. -/
theorem parse_image {width : Width} {plans : List Plan} (hfit : Fit width plans)
    (name : String) :
    let result := (Dissection.start name (image width plans)).parse {}
    result.accepted = true ∧ result.fault? = none
      ∧ result.dissection.bits? = some (width.bits : Int)
      ∧ result.dissection.imports.ok = true
      ∧ result.dissection.imports.libraries.length = plans.length
      ∧ ∀ (i : Nat) p l, plans[i]? = some p →
        result.dissection.imports.libraries[i]? = some l →
        p.IsLibrary l := by
  intro result
  have hheaders := (holds_image width plans).1
  have hraw := length_padded fileUnit (content width plans)
  have hfill : fill fileUnit (content width plans).length < 0x200 :=
    Nat.mod_lt _ (by decide)
  have hsmall : 0x1000 + (content width plans).length ≤ 2 ^ 31 := hfit.small
  have harray := arraySize_le_length_content width plans
  -- The three headers, one after the other.
  obtain ⟨file, hfile, hcount, hoptionalSize⟩ :=
    readFile?_of_stands (d := Dissection.start name (image width plans)) hheaders
  let d₁ : Dissection :=
    { Dissection.start name (image width plans) with signatureAt := 64, file }
  obtain ⟨optional, directories, hoptional, hmagic, hdirectory⟩ :=
    readOptional_of_stands (d := d₁) rfl hoptionalSize hheaders (by omega)
  let d₂ : Dissection := { d₁ with optional, directories, optionalRead := true }
  obtain ⟨s, hsections, haddress, hvirtual, hrawSize, hrawOffset⟩ :=
    readSectionTable_of_stands (d := d₂) rfl hcount hoptionalSize hheaders
      (by omega) (by omega)
  have hload : Loaded ⟨[s], width, {}⟩ (padded fileUnit (content width plans)).length :=
    loaded_of_section (by omega) haddress hvirtual hrawSize hrawOffset
  have hbits : (Header.layout? optional.magic).map (fun layout => (layout.bits : Int)) =
      some (width.bits : Int) := by
    rw [hmagic, layout?_magic]
    cases width <;> rfl
  obtain ⟨hfault, herror, hlibraries⟩ := read_image hfit hload hdirectory
  obtain ⟨haccepted, hfault, hbits, himports⟩ :=
    parse_of_read hfile hoptional hsections hbits hfault
  let imports := Import.read ⟨image width plans, 0⟩ [s] directories (some width.bits) {}
  have htable : ((Dissection.start name (image width plans)).parse
      {}).dissection.imports =
      imports.table := himports
  rw [show (Dissection.start name (image width plans)).parse {} =
    result from rfl] at htable
  refine ⟨haccepted, hfault, hbits, ?_, ?_, ?_⟩
  · rw [htable, Import.Table.ok, herror, Option.isNone_none]
  · rw [htable, hlibraries, libraries, List.length_map, length_placed]
  · intro i p l hp hl
    rw [htable, hlibraries] at hl
    exact isLibrary_of_libraries hp hl

/-- Two libraries: symbols of both kinds in one, an empty name and no symbols in the
other. -/
def samplePlans : List Plan :=
  [⟨"a.dll", [.named "f", .named "", .numbered 0, .numbered 7], true⟩, ⟨"", [], false⟩]

theorem parse_image_sample :
    Fit .wide samplePlans
      ∧ ((Dissection.start "sample.exe" (image .wide samplePlans)).parse {}).accepted =
        true := by
  have hfit : Fit .wide samplePlans := by decide +kernel
  exact ⟨hfit, (parse_image hfit "sample.exe").1⟩

end ImageImports.Layout

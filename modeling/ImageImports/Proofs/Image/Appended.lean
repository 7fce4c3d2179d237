import ImageImports.Proofs.Image.Header
import ImageImports.Proofs.Import.Appended

/-!
# More bytes behind an image

An image is taken apart the same way, whatever is appended to it, if its tables lie inside
it: the headers stand at offsets from the front, and a record that was found is found again.
A table that goes past the end of the file is the exception.  The rows that were missing may
then be found in what is appended, so such an image is not told apart from a shorter one.

## Main results

* `Dissection.parse_append` — the headers, the sections and the directories of the longer
  image.
* `appended_stands` — the longer image has the same analysis, and a file that was cut off has
  the front part of every table.
-/

namespace ImageImports

namespace Dissection

variable {d : Dissection} (more : ByteArray)

/-- The same image, taken apart as far, with more bytes behind it. -/
def appended (d : Dissection) (more : ByteArray) : Dissection :=
  { d with reader := d.reader.appended more }

theorem size_le_appended : d.reader.size ≤ (d.appended more).reader.size := by
  simp only [appended, Reader.appended, Reader.size, ByteArray.size_append]
  omega

/-! ## Records -/

theorem record?_append {offset size : Nat} {record : ByteArray} (hsize : 0 < size)
    (h : d.record? offset size = some record) :
    (d.appended more).record? offset size = some record := by
  rw [record?_eq_run? _ _ hsize] at h ⊢
  exact Bytes.run?_append more h

theorem hasMark_append {offset : Nat} {mark : List UInt8} (hmark : 0 < mark.length)
    (h : d.hasMark offset mark = true) : (d.appended more).hasMark offset mark = true := by
  obtain ⟨run, hrun, heq⟩ := hasMark_eq_true_iff.1 h
  exact hasMark_eq_true_iff.2 ⟨run, record?_append more hmark hrun, heq⟩

/-- A record that lies inside the file is the same in the longer one. -/
theorem record?_append_of_le {offset size : Nat} (hsize : 0 < size)
    (h : offset + size ≤ d.reader.size) :
    (d.appended more).record? offset size = d.record? offset size := by
  obtain ⟨record, hrecord⟩ := Option.isSome_iff_exists.1 ((isSome_record?_iff hsize).2 h)
  rw [hrecord, record?_append more hsize hrecord]

/-! ## Headers -/

theorem readFile?_append {e : Dissection} (h : d.readFile? = some e) :
    (d.appended more).readFile? = some (e.appended more) := by
  obtain ⟨offsetRun, fileRun, hrecords, rfl⟩ := readFile?_eq_some_iff.1 h
  refine readFile?_eq_some_iff.2 ⟨offsetRun, fileRun, ?_, rfl⟩
  exact
    { large := Nat.le_trans hrecords.large (size_le_appended more)
      mark := hasMark_append more (by decide) hrecords.mark
      offset := record?_append more (by decide) hrecords.offset
      signature := hasMark_append more (by decide) hrecords.signature
      file := record?_append more (by decide) hrecords.file }

theorem readDirectories_append {offset count : Nat}
    (h : ∀ i < min count Header.maxDirectories,
      offset + i * Header.directorySize + Header.directorySize ≤ d.reader.size) :
    (d.appended more).readDirectories offset count = d.readDirectories offset count := by
  refine List.map_congr_left fun i hi => ?_
  rw [record?_append_of_le more (by decide) (h i (List.mem_range.1 hi))]

theorem OptionalRecords.append {layout : Header.Layout}
    {magicRun standardRun systemRun : ByteArray}
    (h : d.OptionalRecords layout magicRun standardRun systemRun) :
    (d.appended more).OptionalRecords layout magicRun standardRun systemRun := by
  obtain ⟨hstandard, hsystem⟩ := layout_parts h.known
  exact
    { declared := h.declared
      magic := record?_append more (by decide) h.magic
      known := h.known
      standard := record?_append more hstandard h.standard
      system := record?_append more (by omega) h.system }

/-- An optional header whose directories lie inside the file is the same in the longer
one. -/
theorem withOptional_append {layout : Header.Layout}
    {magicRun standardRun systemRun : ByteArray}
    (h : ∀ i < min (d.withOptional layout magicRun standardRun systemRun).optional.directoryCount
        Header.maxDirectories,
      d.directoriesAt layout + i * Header.directorySize + Header.directorySize
        ≤ d.reader.size) :
    (d.appended more).withOptional layout magicRun standardRun systemRun =
      (d.withOptional layout magicRun standardRun systemRun).appended more := by
  have hdirectories := readDirectories_append more h
  simp only [withOptional, appended] at hdirectories ⊢
  rw [← hdirectories]
  rfl

theorem readSections_append {offset count : Nat}
    (h : ∀ i < count, offset + i * Header.sectionSize + Header.sectionSize ≤ d.reader.size) :
    (d.appended more).readSections offset count = d.readSections offset count := by
  induction count generalizing offset with
  | zero => rfl
  | succ count ih =>
    have hfirst := h 0 (Nat.succ_pos count)
    rw [Nat.zero_mul, Nat.add_zero] at hfirst
    have hrest : (d.appended more).readSections (offset + Header.sectionSize) count =
        d.readSections (offset + Header.sectionSize) count := ih fun i hi => by
      have hnext := h (i + 1) (Nat.succ_lt_succ hi)
      rw [Nat.succ_mul] at hnext
      omega
    rw [readSections, readSections, record?_append_of_le more (by decide) hfirst, hrest]

/-- A section table that lies inside the file is the same in the longer one. -/
theorem readSectionTable_append
    (h : ∀ i < d.file.sectionCount,
      d.optionalAt + d.file.optionalSize + i * Header.sectionSize + Header.sectionSize
        ≤ d.reader.size) :
    (d.appended more).readSectionTable.1 = d.readSectionTable.1.appended more := by
  have hsections : (d.appended more).readSections
      ((d.appended more).optionalAt + (d.appended more).file.optionalSize)
        (d.appended more).file.sectionCount = _ := readSections_append more h
  rw [readSectionTable, hsections]
  rfl

/-! ## The whole image -/

/-- The tables of an image whose headers are read lie inside `size` bytes: every row of the
section table that the file header announces, and every directory that is read of those the
optional header announces. -/
structure TablesInside (d : Dissection) (size : Nat) : Prop where
  sections : ∀ i < d.file.sectionCount,
    d.optionalAt + d.file.optionalSize + i * Header.sectionSize + Header.sectionSize ≤ size
  directories : ∀ layout, Header.layout? d.optional.magic = some layout →
    ∀ i < min d.optional.directoryCount Header.maxDirectories,
      d.directoriesAt layout + i * Header.directorySize + Header.directorySize ≤ size

/-- Headers whose tables lie inside the file are read the same in the longer one. -/
theorem readRest_append {layout : Header.Layout} {magicRun standardRun systemRun : ByteArray}
    (hrecords : d.OptionalRecords layout magicRun standardRun systemRun)
    (hinside : d.readRest.TablesInside d.reader.size) :
    (d.appended more).readRest = d.readRest.appended more := by
  rw [hrecords.readRest_eq] at hinside
  have hdirectories := hinside.directories layout hrecords.known
  have hoptional : (d.appended more).withOptional layout magicRun standardRun systemRun =
      (d.withOptional layout magicRun standardRun systemRun).appended more :=
    withOptional_append more hdirectories
  rw [hrecords.readRest_eq, (hrecords.append more).readRest_eq, hoptional]
  exact readSectionTable_append more hinside.sections

variable {limits : Import.Limits}

/-- The optional header of an image whose imports are read well was read completely. -/
theorem optionalRead_of_imports_ok {e : Dissection}
    (h : (e.readRest.readImports limits).table.ok = true) :
    e.readOptional.1.optionalRead = true := by
  by_contra hunread
  rw [readImports, Import.read, bits?_readRest hunread] at h
  cases h

/-- An accepted image whose imports are read well, whose tables lie inside it and whose
descriptor array comes to its proper end: the longer image is accepted, and all that is read
of it is the same. -/
theorem parse_append (hbefore : d.optionalRead = false)
    (haccepted : (d.parse limits).accepted = true)
    (hok : (d.parse limits).dissection.imports.ok = true)
    (hinside : (d.parse limits).dissection.TablesInside d.reader.size)
    (hend : Import.ArrayTerminated d.reader.data (d.parse limits).dissection.sections
      (d.parse limits).dissection.directories (d.parse limits).dissection.imports) :
    ((d.appended more).parse limits).accepted = true
      ∧ ∃ reader, reader.data = d.reader.data ++ more
        ∧ ((d.appended more).parse limits).dissection =
          { (d.parse limits).dissection with reader } := by
  obtain ⟨e, hfile, hret, hdissection⟩ := parse_of_accepted haccepted
  rw [hdissection] at hok hinside hend ⊢
  have hreader : e.readRest.reader = d.reader := by
    obtain ⟨offsetRun, fileRun, -, rfl⟩ := readFile?_eq_some_iff.1 hfile
    exact reader_readRest _
  have hunread : e.optionalRead = false := by
    obtain ⟨offsetRun, fileRun, -, rfl⟩ := readFile?_eq_some_iff.1 hfile
    exact hbefore
  obtain ⟨layout, magicRun, standardRun, systemRun, hrecords⟩ :=
    optionalRecords_of_read hunread (optionalRead_of_imports_ok hok)
  have hrest : (e.appended more).readRest = e.readRest.appended more := by
    refine readRest_append more hrecords ?_
    rw [← reader_readRest, hreader]
    exact ⟨hinside.sections, hinside.directories⟩
  rw [← hreader] at hend
  have hdata : (e.readRest.appended more).reader.data = e.readRest.reader.data ++ more := rfl
  obtain ⟨htable, hfault⟩ := Import.read_append_of_terminated hdata hret hok hend
  have hret' : ((e.appended more).readRest.readImports limits).fault? = none := by
    rw [hrest]
    exact hfault
  obtain ⟨haccepted', -, hdissection'⟩ :=
    parse_of_readFile? (readFile?_append more hfile) hret'
  let left := ((e.readRest.appended more).readImports limits).reader
  refine ⟨haccepted', left, ?_, ?_⟩
  · refine (Import.data_read _ _ _ _ _).trans ?_
    show e.readRest.reader.data ++ more = d.reader.data ++ more
    rw [hreader]
  · rw [hdissection', hrest, withImports, withImports]
    exact congrArg (fun imports => { e.readRest with
      reader := left
      imports
      parsed := true }) htable

end Dissection

/-- **Appended bytes change nothing, and a cut invents nothing.**  An accepted image whose
imports are read well, whose tables lie inside it, and whose descriptor array ends in a
record without tables or that declares no imports: with any bytes behind it, it is accepted
and has the same width and, but for the size, the same analysis.  And whatever the sections,
the directories, the width and the limits are: when the directory is read well in the longer
file, each table of the shorter one is the front of the table there, and whole limits do not
stop the reading of the shorter one. -/
theorem appended_stands (bytes more : ByteArray) (limits : Import.Limits) :
    (∀ name : String,
      let short := (Dissection.start name bytes).parse limits
      let long := (Dissection.start name (bytes ++ more)).parse limits
      short.accepted = true → short.dissection.imports.ok = true →
      short.dissection.TablesInside bytes.size →
      Import.ArrayTerminated bytes short.dissection.sections short.dissection.directories
        short.dissection.imports →
      long.accepted = true ∧ long.dissection.bits? = short.dissection.bits?
        ∧ long.dissection.analysis = { short.dissection.analysis with
          info := { short.dissection.analysis.info with size := (bytes ++ more).size } })
    ∧ ∀ (sections : SectionMap) (directories : List DataDirectory) (bits : Option Int),
      let short := Import.read { data := bytes } sections directories bits limits
      let long := Import.read { data := bytes ++ more } sections directories bits limits
      long.fault? = none → long.table.ok = true →
      Import.FrontOf short.table.libraries long.table.libraries
        ∧ (limits.Whole → short.fault? = none) := by
  constructor
  · intro name short long haccepted hok hinside hend
    obtain ⟨haccepted', reader, hdata, hdissection⟩ :=
      Dissection.parse_append (d := .start name bytes) more rfl haccepted hok hinside hend
    have hlong : long.dissection = { short.dissection with reader } := hdissection
    have hsize : reader.size = (bytes ++ more).size := congrArg ByteArray.size hdata
    refine ⟨haccepted', ?_, ?_⟩
    · rw [hlong]
      rfl
    · rw [hlong, ← hsize]
      rfl
  · intro sections directories bits short long hret hok
    exact ⟨Import.frontOf_read_append rfl hret hok,
      fun hwhole => hwhole.read_returned _ sections directories bits⟩

/-! ### An image in front of another one -/

/-- The headers of an image whose one section holds what comes behind them. -/
def sampleHeaders : ByteArray :=
  ⟨#[0x4d, 0x5a] ++ Array.replicate 58 0 ++ #[0x40, 0, 0, 0, 0x50, 0x45, 0, 0,
    0x4c, 1, 1, 0, 0, 0, 0, 0, 0, 0, 0, 0, 0, 0, 0, 0, 0x70, 0, 2, 1,
    0x0b, 1] ++ Array.replicate 90 0 ++ #[2, 0, 0, 0,
    0, 0, 0, 0, 0, 0, 0, 0, 0, 0x10, 0, 0, 40, 0, 0, 0,
    0x2e, 0x69, 0x64, 0x61, 0x74, 0x61, 0, 0, 64, 0, 0, 0, 0, 0x10, 0, 0, 64, 0, 0, 0,
    240, 0, 0, 0, 0, 0, 0, 0, 0, 0, 0, 0, 0, 0, 0, 0, 0x40, 0, 0, 0xc0]⟩

/-- An image with one library that has two symbols. -/
def sampleImage : ByteArray := sampleHeaders ++ Import.sample

/-- What taking the image apart leaves. -/
def sampleOutcome : Dissection.Outcome := (Dissection.start "a.exe" sampleImage).parse {}

theorem sampleOutcome_read :
    sampleOutcome.accepted = true ∧ sampleOutcome.dissection.imports.ok = true
      ∧ sampleOutcome.dissection.imports.libraries.map
        (fun l => (l.name, l.entries.length)) = [("a.dll", 2)]
      ∧ sampleOutcome.dissection.signatureAt = 64
      ∧ sampleOutcome.dissection.file.sectionCount = 1
      ∧ sampleOutcome.dissection.file.optionalSize = 112
      ∧ sampleOutcome.dissection.optional.magic = 0x10B
      ∧ sampleOutcome.dissection.optional.directoryCount = 2
      ∧ sampleOutcome.dissection.directories = Import.sampleDirectories
      ∧ sampleOutcome.dissection.sections =
        [⟨".idata", 0x1000, 64, 240, 64, 0xc0000040⟩] := by
  decide +kernel

theorem sampleImage_ends :
    sampleImage.size = 304
      ∧ Bytes.number? sampleImage 260 4 = some 0 ∧ Bytes.number? sampleImage 264 4 = some 0
      ∧ Bytes.number? sampleImage 268 4 = some 0 ∧ Bytes.number? sampleImage 272 4 = some 0
      ∧ Bytes.number? sampleImage 276 4 = some 0 := by
  refine ⟨by simp [sampleImage, sampleHeaders, Import.sample, ← ByteArray.size_data], ?_⟩
  decide +kernel

/-- The image is read well, and a second copy behind it changes nothing; a directory is read
well, and the front of it in a file that is cut off. -/
theorem appended_stands_sample :
    sampleOutcome.dissection.imports.libraries.map (fun l => (l.name, l.entries.length)) =
        [("a.dll", 2)]
      ∧ ((Dissection.start "a.exe" (sampleImage ++ sampleImage)).parse
        {}).dissection.analysis = { sampleOutcome.dissection.analysis with
          info := { sampleOutcome.dissection.analysis.info with
            size := (sampleImage ++ sampleImage).size } }
      ∧ Import.FrontOf
        (Import.read { data := Import.sample.extract 0 57 } Import.sampleSections
          Import.sampleDirectories (some 32) {}).table.libraries
        (Import.read { data := Import.sample.extract 0 57 ++ Import.sample.extract 57 64 }
          Import.sampleSections Import.sampleDirectories (some 32) {}).table.libraries := by
  obtain ⟨haccepted, hok, hlibraries, hsignature, hcount, hsize, hmagic, hdirectoryCount,
    hdirectories, hsections⟩ := sampleOutcome_read
  obtain ⟨hlength, hzero, hzero4, hzero8, hzero12, hzero16⟩ := sampleImage_ends
  have hinside : sampleOutcome.dissection.TablesInside sampleImage.size :=
    { sections := by
        rw [hlength, Dissection.optionalAt, hsignature, hcount, hsize]
        decide
      directories := fun layout hlayout => by
        rw [hmagic] at hlayout
        cases hlayout
        rw [hlength, Dissection.directoriesAt, Dissection.optionalAt, hsignature,
          hdirectoryCount]
        decide }
  have hlocate : DataDirectory.locate sampleOutcome.dissection.directories
      sampleOutcome.dissection.sections DataDirectory.importIndex =
        .ok (some ⟨1, 0x1000, 40, 240⟩) := by
    rw [hdirectories, hsections]
    rfl
  have hone : sampleOutcome.dissection.imports.libraries.length = 1 := by
    have hlengths := congrArg List.length hlibraries
    rwa [List.length_map] at hlengths
  have hend : Import.ArrayTerminated sampleImage sampleOutcome.dissection.sections
      sampleOutcome.dissection.directories sampleOutcome.dissection.imports := by
    refine .inr ⟨_, {}, hlocate, ?_, rfl, rfl⟩
    rw [hone]
    exact ⟨hzero, hzero4, hzero8, hzero12, hzero16⟩
  rw [sampleOutcome] at haccepted hok hinside hend
  have hsame := (appended_stands sampleImage sampleImage {}).1 "a.exe" haccepted hok
    hinside hend
  refine ⟨hlibraries, ?_, ?_⟩
  · rw [hsame.2.2]
    rfl
  · exact ((appended_stands (Import.sample.extract 0 57) (Import.sample.extract 57 64) {}).2
      Import.sampleSections Import.sampleDirectories (some 32) (by decide +kernel)
        (by decide +kernel)).1

end ImageImports

import ImageImports.Proofs.Image.Accepted
import ImageImports.Proofs.Image.Appended
import ImageImports.Proofs.Import.Rearranged

/-!
# Taking an image apart again

What has been read of an image can be parsed again.  The headers are read aside, from the same
bytes and at the same offsets, and what they say is put in the place of what was there, so
reading them again changes nothing.  The directory of imports is read from wherever the head
stands, but the first thing that is done with the head is to move it to the directory.

The section table is the exception: its rows are added to those already known.  So every parse
after the first one adds all rows once more.  The copies stand behind the rows that are
there, where the translation of addresses never comes to them, and the imports are the same.

## Main results

* `Import.read_again` — a reading of the imports can begin where another one left the head.
* `readOptional_resumed` — reading the headers again changes nothing.
* `parse_again` — a second parse adds the rows once more and does nothing else.
* `parse_repeated` — so does every further one.
-/

namespace ImageImports

/-! ## The imports -/

namespace SectionMap

/-- Sections that are there already are never found behind the others. -/
theorem sectionAt?_append_of_subset {sections more : SectionMap} (h : more ⊆ sections)
    (rva : Int) : sectionAt? (sections ++ more) rva = sections.sectionAt? rva := by
  rw [sectionAt?, sectionAt?, List.find?_append]
  cases hfound : sections.find? (·.covers rva) with
  | some s => rfl
  | none =>
    rw [Option.none_or]
    exact List.find?_eq_none.2 fun s hs => List.find?_eq_none.1 hfound s (h hs)

/-- A table that stands there several times over finds what the table finds. -/
theorem sectionAt?_replicate (sections : SectionMap) (k : Nat) (rva : Int) :
    sectionAt? (List.replicate (k + 1) sections).flatten rva = sections.sectionAt? rva := by
  rw [List.replicate_succ, List.flatten_cons]
  refine sectionAt?_append_of_subset (fun s hs => ?_) rva
  obtain ⟨copy, hcopy, hs⟩ := List.mem_flatten.1 hs
  rwa [List.eq_of_mem_replicate hcopy] at hs

/-- Putting copies of a table behind it changes it, unless it is empty or there are none. -/
theorem flatten_replicate_eq_self_iff (sections : SectionMap) (k : Nat) :
    (List.replicate (k + 1) sections).flatten = sections ↔ k = 0 ∨ sections = [] := by
  constructor
  · intro hsame
    -- The copies are counted.
    have hlength := congrArg List.length hsame
    simp only [List.length_flatten, List.map_replicate, List.sum_replicate, smul_eq_mul,
      Nat.add_mul, Nat.one_mul] at hlength
    have hzero : k * sections.length = 0 := by omega
    rcases Nat.mul_eq_zero.1 hzero with h | h
    · exact .inl h
    · exact .inr (List.length_eq_zero_iff.1 h)
  · rintro (rfl | rfl)
    · rw [List.replicate_one, List.flatten_singleton]
    · exact List.flatten_replicate_nil

end SectionMap

namespace Import

/-- Where a head is moved to depends on the bytes only. -/
theorem seek?_congr {r other : Reader} (h : other.data = r.data) (offset : Int) :
    other.seek? offset = r.seek? offset := by
  rw [Reader.seek?, Reader.seek?, Reader.size, Reader.size, h]

/-- A reading at a known place can begin where another one left the head. -/
theorem Context.readAt_again (ctx : Context) (bits : Option Int)
    (location : DataDirectory.Location) (r : Reader) :
    readAt ctx bits location (readAt ctx bits location r).reader = readAt ctx bits location r := by
  cases hseek : r.seek? location.offset with
  | none =>
    -- Nothing is read, and the head is left where it was.
    have hleft : (readAt ctx bits location r).reader = r := by
      simp only [readAt, hseek]
      rfl
    rw [hleft]
  | some there =>
    have hagain := seek?_congr (ctx.data_readAt bits location r) location.offset
    rw [hseek] at hagain
    generalize (readAt ctx bits location r).reader = left at hagain ⊢
    simp only [readAt, hseek, hagain]

/-- A reading of the imports can begin where another one left the head. -/
theorem read_again (r : Reader) (sections : SectionMap) (directories : List DataDirectory)
    (bits : Option Int) (limits : Limits) :
    read (read r sections directories bits limits).reader sections directories bits limits =
      read r sections directories bits limits := by
  cases hwidth : Width.ofBits? bits with
  | none =>
    simp only [read, hwidth]
    rfl
  | some width =>
    cases hplace : DataDirectory.locate directories sections DataDirectory.importIndex with
    | error e =>
      simp only [read, hwidth, hplace]
      rfl
    | ok location? =>
      cases location? with
      | none =>
        simp only [read, hwidth, hplace]
        rfl
      | some location =>
        simp only [read, hwidth, hplace]
        exact Context.readAt_again _ bits location r

end Import

namespace Dissection

variable {d e x : Dissection} {limits : Import.Limits}

/-! ## The headers -/

/-- A record depends on the bytes only. -/
theorem record?_congr (h : x.reader.data = e.reader.data) (offset size : Nat) :
    x.record? offset size = e.record? offset size := by
  rw [record?, record?, Reader.readAt, Reader.readAt, Reader.aside, Reader.aside,
    Import.seek?_congr h]
  cases hseek : e.reader.seek? offset with
  | none => rfl
  | some there => rfl

theorem hasMark_congr (h : x.reader.data = e.reader.data) (offset : Nat) (mark : List UInt8) :
    x.hasMark offset mark = e.hasMark offset mark := by
  rw [hasMark, hasMark, record?_congr h]

/-- The records of a file header are found again in the same bytes. -/
theorem FileRecords.congr {offsetRun fileRun : ByteArray} (h : x.reader.data = e.reader.data)
    (hrecords : e.FileRecords offsetRun fileRun) : x.FileRecords offsetRun fileRun where
  large := by
    rw [Reader.size, h]
    exact hrecords.large
  mark := (hasMark_congr h _ _).trans hrecords.mark
  offset := (record?_congr h _ _).trans hrecords.offset
  signature := (hasMark_congr h _ _).trans hrecords.signature
  file := (record?_congr h _ _).trans hrecords.file

theorem readDirectories_congr (h : x.reader.data = e.reader.data) (offset count : Nat) :
    x.readDirectories offset count = e.readDirectories offset count := by
  simp only [readDirectories, record?_congr h]

theorem readSections_congr (h : x.reader.data = e.reader.data) (offset count : Nat) :
    x.readSections offset count = e.readSections offset count := by
  induction count generalizing offset with
  | zero => rfl
  | succ count ih => rw [readSections, readSections, record?_congr h, ih]

/-- An image whose headers have been read, with whatever has been read of it since. -/
def resumed (e : Dissection) (reader : Reader) (sections : List Section) (imports : Import.Table)
    (parsed : Bool) : Dissection :=
  { e with reader, sections, imports, parsed }

section

variable {reader : Reader} (h : reader.data = e.reader.data) (sections : List Section)
  (imports : Import.Table) (parsed : Bool)

include h

/-- An optional header that was read completely is read again. -/
theorem OptionalRecords.resumed {layout : Header.Layout}
    {magicRun standardRun systemRun : ByteArray}
    (hrecords : e.OptionalRecords layout magicRun standardRun systemRun) :
    ((e.withOptional layout magicRun standardRun systemRun).resumed reader sections imports
      parsed).OptionalRecords layout magicRun standardRun systemRun where
  declared := hrecords.declared
  magic := (record?_congr h _ _).trans hrecords.magic
  known := hrecords.known
  standard := (record?_congr h _ _).trans hrecords.standard
  system := (record?_congr h _ _).trans hrecords.system

/-- What it decodes to takes the place of the same values. -/
theorem withOptional_resumed (layout : Header.Layout)
    (magicRun standardRun systemRun : ByteArray) :
    ((e.withOptional layout magicRun standardRun systemRun).resumed reader sections imports
        parsed).withOptional layout magicRun standardRun systemRun =
      (e.withOptional layout magicRun standardRun systemRun).resumed reader sections imports
        parsed := by
  have hdirectories (offset count : Nat) :
      readDirectories ((e.withOptional layout magicRun standardRun systemRun).resumed reader
        sections imports parsed) offset count = e.readDirectories offset count :=
    readDirectories_congr h offset count
  rw [withOptional, hdirectories]
  rfl

/-- Reading the headers again changes nothing, and tells the same. -/
theorem readOptional_resumed :
    (e.readOptional.1.resumed reader sections imports parsed).readOptional =
      (e.readOptional.1.resumed reader sections imports parsed, e.readOptional.2) := by
  -- Each record that was looked for is there again, or is missing again.
  have hrecord (optional : Header.Optional) (offset size : Nat) :
      record? { e with reader, optional, sections, imports, parsed } offset size =
        e.record? offset size := record?_congr h offset size
  have hat (optional : Header.Optional) :
      optionalAt { e with reader, optional, sections, imports, parsed } = e.optionalAt := rfl
  have hnoted (optional : Header.Optional) (offset size : Nat) :
      record? { e with optional } offset size = e.record? offset size := rfl
  have hnotedAt (optional : Header.Optional) :
      optionalAt { e with optional } = e.optionalAt := rfl
  by_cases hsize : e.file.optionalSize = 0
  · simp only [readOptional, Dissection.resumed, hsize, if_true]
  cases hmagic : e.record? e.optionalAt 2 with
  | none =>
    simp only [readOptional, Dissection.resumed, hsize, if_false, hrecord, hat, hmagic]
  | some magic =>
    cases hlayout : Header.layout? (Bytes.littleEndian magic) with
    | none =>
      simp only [readOptional, Dissection.resumed, hsize, if_false, hrecord, hat, hmagic, hlayout]
    | some layout =>
      cases hstandard : e.record? e.optionalAt layout.standardSize with
      | none =>
        simp only [readOptional, Dissection.resumed, hsize, if_false, hrecord, hat, hmagic,
          hlayout, hnoted, hnotedAt, hstandard]
      | some standard =>
        cases hsystem : e.record? (e.optionalAt + layout.standardSize) layout.systemSize with
        | none =>
          simp only [readOptional, Dissection.resumed, hsize, if_false, hrecord, hat, hmagic,
            hlayout, hnoted, hnotedAt, hstandard, hsystem]
        | some system =>
          have hrecords : e.OptionalRecords layout magic standard system :=
            ⟨hsize, hmagic, hlayout, hstandard, hsystem⟩
          have hagain := hrecords.resumed h sections imports parsed
          rw [hrecords.readOptional_eq, hagain.readOptional_eq, withOptional_resumed h]

end

/-! ## The section table -/

/-- The rows of the section table, for an image whose file header is read. -/
def tableRows (e : Dissection) : List Section :=
  e.readSections (e.optionalAt + e.file.optionalSize) e.file.sectionCount

/-- The rows stand where the file header says, whatever is read of the optional one. -/
theorem tableRows_readOptional (e : Dissection) : e.readOptional.1.tableRows = e.tableRows := by
  obtain ⟨hplace, hfile, -⟩ := readOptional_keeps e
  rw [tableRows, tableRows, optionalAt, optionalAt, hplace, hfile]
  exact readSections_congr (congrArg Reader.data (reader_readOptional e)) _ _

theorem sections_readRest_eq (e : Dissection) :
    e.readRest.sections = e.sections ++ e.tableRows := by
  have htable : e.readRest.sections =
      e.readOptional.1.sections ++ e.readOptional.1.tableRows := rfl
  rw [htable, tableRows_readOptional, (readOptional_keeps e).2.2]

section

variable {reader : Reader} (h : reader.data = e.reader.data) (sections : List Section)
  (imports : Import.Table) (parsed : Bool)

include h

theorem tableRows_resumed :
    (e.readOptional.1.resumed reader sections imports parsed).tableRows = e.tableRows := by
  have hdata : reader.data = e.readOptional.1.reader.data := by
    rw [h, reader_readOptional]
  have hsame : (e.readOptional.1.resumed reader sections imports parsed).tableRows =
      e.readOptional.1.tableRows := readSections_congr hdata _ _
  rw [hsame, tableRows_readOptional]

/-- Reading the headers and the section table again adds the rows once more. -/
theorem readRest_resumed :
    (e.readOptional.1.resumed reader sections imports parsed).readRest =
      e.readOptional.1.resumed reader (sections ++ e.tableRows) imports parsed := by
  rw [readRest, readOptional_resumed h, ← tableRows_resumed h sections imports parsed]
  rfl

/-- A table that was cut off is cut off again. -/
theorem notes_resumed :
    (e.readOptional.1.resumed reader sections imports parsed).readSectionTable.2 =
      e.readOptional.1.readSectionTable.2 := by
  have hrows := tableRows_resumed h sections imports parsed
  rw [← tableRows_readOptional e] at hrows
  simp only [tableRows] at hrows
  simp only [readSectionTable, hrows]
  rfl

end

/-! ## Behind the file header -/

/-- What a parse leaves of an image whose file header is read. -/
def parseRest (e : Dissection) (limits : Import.Limits) : Outcome :=
  let reading := e.readRest.readImports limits
  let log := e.readOptional.2 ++ e.readOptional.1.readSectionTable.2 ++ reading.log
  match reading.fault? with
  | some fault => ⟨false, { e.readRest with reader := reading.reader }, log, some fault⟩
  | none => ⟨true, e.readRest.withImports limits, log, none⟩

theorem parse_of_file (h : d.readFile? = some e) : d.parse limits = e.parseRest limits := by
  simp only [parse, h]
  rfl

/-- The same image with other sections. -/
def withSections (d : Dissection) (sections : List Section) : Dissection := { d with sections }

/-- The image with its headers and its sections read, and the head where the reading of the imports
left it. -/
def left (e : Dissection) (limits : Import.Limits) (imports : Import.Table) (parsed : Bool) :
    Dissection :=
  e.readOptional.1.resumed (e.readRest.readImports limits).reader e.readRest.sections imports
    parsed

section

variable (e : Dissection) (limits : Import.Limits) (imports : Import.Table) (parsed : Bool)

theorem data_left : (e.left limits imports parsed).reader.data = e.reader.data := by
  have hreader :
      (e.left limits imports parsed).reader = (e.readRest.readImports limits).reader := rfl
  rw [hreader, readImports, Import.data_read, reader_readRest]

theorem fileHeader_left :
    (e.left limits imports parsed).signatureAt = e.signatureAt
      ∧ (e.left limits imports parsed).file = e.file :=
  ⟨(readOptional_keeps e).1, (readOptional_keeps e).2.1⟩

theorem readOptional_left :
    (e.left limits imports parsed).readOptional =
      (e.left limits imports parsed, e.readOptional.2) :=
  readOptional_resumed (data_left e limits imports parsed) _ _ _

theorem readRest_left :
    (e.left limits imports parsed).readRest =
      (e.left limits imports parsed).withSections (e.readRest.sections ++ e.tableRows) :=
  readRest_resumed (data_left e limits imports parsed) _ _ _

theorem notes_left :
    (e.left limits imports parsed).readSectionTable.2 = e.readOptional.1.readSectionTable.2 :=
  notes_resumed (data_left e limits imports parsed) _ _ _

/-- The rows that are added once more are never found, so the imports are the same. -/
theorem readImports_left :
    ((e.left limits imports parsed).withSections
      (e.readRest.sections ++ e.tableRows)).readImports limits = e.readRest.readImports limits := by
  have hsections : e.tableRows ⊆ e.readRest.sections := by
    rw [sections_readRest_eq]
    exact List.subset_append_right _ _
  exact (Import.read_congr (SectionMap.sectionAt?_append_of_subset hsections) _ _ _ _).trans
    (Import.read_again _ _ _ _ _)

end

/-! ## The whole image -/

namespace Outcome

/-- What another parse leaves. -/
def again (limits : Import.Limits) (o : Outcome) : Outcome := o.dissection.parse limits

/-- The same outcome with other sections. -/
def withSections (o : Outcome) (sections : List Section) : Outcome :=
  { o with dissection := o.dissection.withSections sections }

theorem withSections_eq_self_iff {o : Outcome} {sections : List Section} :
    o.withSections sections = o ↔ sections = o.dissection.sections := by
  constructor
  · exact fun h => congrArg (fun o : Outcome => o.dissection.sections) h
  · rintro rfl
    rfl

end Outcome

/-- Behind the file header, a second parse adds the rows once more and does nothing else. -/
theorem parseRest_again (e : Dissection) (limits : Import.Limits) :
    (e.parseRest limits).dissection.parseRest limits =
      (e.parseRest limits).withSections (e.readRest.sections ++ e.tableRows) := by
  cases hfault : (e.readRest.readImports limits).fault? with
  | some fault =>
    have hfirst : (e.parseRest limits).dissection =
        e.left limits e.readRest.imports e.readRest.parsed := by
      simp only [parseRest, hfault]
      rfl
    rw [hfirst]
    simp only [parseRest, readOptional_left, readRest_left, notes_left, readImports_left, hfault]
    rfl
  | none =>
    have hfirst : (e.parseRest limits).dissection =
        e.left limits (e.readRest.readImports limits).table true := by
      simp only [parseRest, hfault]
      rfl
    rw [hfirst]
    simp only [parseRest, readOptional_left, readRest_left, notes_left, readImports_left, hfault,
      withImports]
    rfl

/-- A file header that was read is there when the image is parsed again. -/
theorem readFile?_left (h : d.readFile? = some e) (limits : Import.Limits)
    (imports : Import.Table) (parsed : Bool) :
    (e.left limits imports parsed).readFile? = some (e.left limits imports parsed) := by
  obtain ⟨offsetRun, fileRun, hrecords, rfl⟩ := readFile?_eq_some_iff.1 h
  obtain ⟨hplace, hfile⟩ := fileHeader_left (d.withFile offsetRun fileRun) limits imports parsed
  have hdata : ((d.withFile offsetRun fileRun).left limits imports parsed).reader.data =
      d.reader.data := data_left _ limits imports parsed
  refine readFile?_eq_some_iff.2 ⟨offsetRun, fileRun, hrecords.congr hdata, ?_⟩
  generalize (d.withFile offsetRun fileRun).left limits imports parsed = x at hplace hfile ⊢
  dsimp only [withFile] at hplace hfile
  rw [withFile, ← hplace, ← hfile]

/-- What a parse leaves is the image with its headers and its sections read, however the reading of
the imports ended. -/
theorem parseRest_left (e : Dissection) (limits : Import.Limits) :
    ∃ imports parsed, (e.parseRest limits).dissection = e.left limits imports parsed := by
  simp only [parseRest]
  split
  · exact ⟨_, _, rfl⟩
  · exact ⟨_, _, rfl⟩

/-- The rows that a parse of the image adds. -/
def rows (d : Dissection) : List Section := (d.readFile?.map tableRows).getD []

theorem rows_of_file (h : d.readFile? = some e) : d.rows = e.tableRows := by
  rw [rows, h, Option.map_some, Option.getD_some]

theorem rows_of_none (h : d.readFile? = none) : d.rows = [] := by
  rw [rows, h, Option.map_none, Option.getD_none]

theorem parse_of_none (h : d.readFile? = none) (limits : Import.Limits) :
    d.parse limits = ⟨false, d, [], none⟩ := by
  rw [parse, h]

/-- A parse adds its rows to the sections that are there. -/
theorem sections_parse (d : Dissection) (limits : Import.Limits) :
    (d.parse limits).dissection.sections = d.sections ++ d.rows := by
  cases hfile : d.readFile? with
  | none => rw [parse_of_none hfile, rows_of_none hfile, List.append_nil]
  | some e =>
    obtain ⟨imports, parsed, hleft⟩ := parseRest_left e limits
    have hsections : (e.left limits imports parsed).sections = e.readRest.sections := rfl
    have hfresh : e.sections = d.sections := by
      obtain ⟨_, _, -, rfl⟩ := readFile?_eq_some_iff.1 hfile
      rfl
    rw [parse_of_file hfile, rows_of_file hfile, hleft, hsections, sections_readRest_eq, hfresh]

/-- An image that has been parsed has the same rows. -/
theorem rows_parse (d : Dissection) (limits : Import.Limits) :
    (d.parse limits).dissection.rows = d.rows := by
  cases hfile : d.readFile? with
  | none => rw [parse_of_none hfile]
  | some e =>
    obtain ⟨imports, parsed, hleft⟩ := parseRest_left e limits
    rw [parse_of_file hfile, hleft, rows_of_file (readFile?_left hfile limits imports parsed),
      rows_of_file hfile]
    exact tableRows_resumed (data_left e limits imports parsed) _ _ _

/-- A second parse adds the rows once more, and does nothing else. -/
theorem parse_again (d : Dissection) (limits : Import.Limits) :
    (d.parse limits).again limits =
      (d.parse limits).withSections ((d.parse limits).dissection.sections ++ d.rows) := by
  cases hfile : d.readFile? with
  | none =>
    rw [Outcome.again, parse_of_none hfile, rows_of_none hfile, List.append_nil,
      parse_of_none hfile]
    rfl
  | some e =>
    obtain ⟨imports, parsed, hleft⟩ := parseRest_left e limits
    have hagain : (e.parseRest limits).dissection.readFile? =
        some (e.parseRest limits).dissection := by
      rw [hleft]
      exact readFile?_left hfile limits imports parsed
    rw [Outcome.again, parse_of_file hfile, parse_of_file hagain, parseRest_again,
      rows_of_file hfile, hleft]
    rfl

/-- So does every further one. -/
theorem again_iterate (d : Dissection) (limits : Import.Limits) (k : Nat) :
    (Outcome.again limits)^[k] (d.parse limits) =
      (d.parse limits).withSections
        (d.sections ++ (List.replicate (k + 1) d.rows).flatten) := by
  induction k generalizing d with
  | zero =>
    rw [List.replicate_one, List.flatten_singleton, ← sections_parse d limits]
    rfl
  | succ k ih =>
    -- The image as the first parse left it is one to begin with.
    have hnext := ih (d.parse limits).dissection
    have hagain := parse_again d limits
    rw [Outcome.again] at hagain
    have hrows : d.sections ++ (List.replicate (k + 1 + 1) d.rows).flatten =
        d.sections ++ d.rows ++ (List.replicate (k + 1) d.rows).flatten := by
      rw [List.replicate_succ, List.flatten_cons, List.append_assoc]
    rw [hagain, rows_parse, sections_parse] at hnext
    rw [Function.iterate_succ_apply, Outcome.again, hagain, sections_parse, hnext, hrows]
    rfl

/-- An image of which nothing has been read is parsed, and then `k` more times.  The answer, the
notes and all that was read are what they were after the first parse, except that the section
table stands there `k + 1` times; still every address is found where it was.  So parsing again
changes nothing where no section was found, and changes the sections everywhere else. -/
theorem parse_repeated (name : String) (reader : Reader) (limits : Import.Limits) (k : Nat) :
    let once := ({ name, reader } : Dissection).parse limits
    let last := (Outcome.again limits)^[k] once
    last.accepted = once.accepted ∧ last.fault? = once.fault? ∧ last.log = once.log
      ∧ last.dissection = { once.dissection with
          sections := (List.replicate (k + 1) once.dissection.sections).flatten }
      ∧ last.dissection.bits? = once.dissection.bits?
      ∧ last.dissection.info = once.dissection.info
      ∧ (∀ rva, SectionMap.sectionAt? last.dissection.sections rva =
            SectionMap.sectionAt? once.dissection.sections rva
          ∧ SectionMap.toOffset? last.dissection.sections rva =
            SectionMap.toOffset? once.dissection.sections rva
          ∧ SectionMap.rawEndAt? last.dissection.sections rva =
            SectionMap.rawEndAt? once.dissection.sections rva)
      ∧ (last = once ↔ k = 0 ∨ once.dissection.sections = []) := by
  intro once last
  have hsections : once.dissection.sections = ({ name, reader } : Dissection).rows :=
    sections_parse _ limits
  have hlast : last = once.withSections
      (List.replicate (k + 1) once.dissection.sections).flatten := by
    rw [hsections]
    exact again_iterate { name, reader } limits k
  have hfound := SectionMap.sectionAt?_replicate once.dissection.sections k
  rw [hlast]
  exact ⟨rfl, rfl, rfl, rfl, rfl, rfl, fun rva => ⟨hfound rva,
    SectionMap.toOffset?_congr hfound rva, SectionMap.rawEndAt?_congr hfound rva⟩,
    Outcome.withSections_eq_self_iff.trans (SectionMap.flatten_replicate_eq_self_iff _ k)⟩

/-- The sample has one section; a second parse makes two of it. -/
example : (sampleOutcome.again {}).dissection.sections.map (·.name) = [".idata", ".idata"] := by
  have hsections := sampleOutcome_read.2.2.2.2.2.2.2.2.2
  have hrows := sections_parse (start "a.exe" sampleImage) {}
  have hfresh : (start "a.exe" sampleImage).sections = [] := rfl
  rw [hfresh, List.nil_append] at hrows
  rw [sampleOutcome] at hsections ⊢
  rw [parse_again, ← hrows, hsections]
  rfl

end Dissection

end ImageImports

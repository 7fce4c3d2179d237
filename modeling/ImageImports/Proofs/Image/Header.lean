import ImageImports.Image.Dissection
import ImageImports.Proofs.Import.Steps

/-!
# The headers of an accepted image

The headers are read by records at offsets that earlier records give.  Here each of the
reading steps is turned round: a step that came through had its records in the file, and it
left what they decode to.  The import directory is read last, from what the headers say.

## Main results

* `Dissection.readFile?_eq_some_iff` — which records make a file header.
* `Dissection.optionalRecords_of_read` — which records make an optional header that was read
  completely.
* `Dissection.parse_of_accepted` — an accepted image went through all steps.
-/

namespace ImageImports.Dissection

variable {d : Dissection}

/-- A record of at least one byte is a run of the file. -/
theorem record?_eq_run? (d : Dissection) (offset : Nat) {size : Nat} (hsize : 0 < size) :
    d.record? offset size = Bytes.run? d.reader.data offset size :=
  Reader.readAt_fst d.reader offset hsize

/-- A field of a record that is there is a number of the file. -/
theorem number?_of_record? {offset size : Nat} {record : ByteArray}
    (h : d.record? offset size = some record) (start width : Nat) (hwidth : 0 < width)
    (hle : start + width ≤ size) :
    Bytes.number? d.reader.data (offset + start) width =
      some (Bytes.field record start width : Int) := by
  rw [record?_eq_run? d offset (by omega)] at h
  exact Bytes.number?_of_run? h start width hle

/-- A record that is there is the number that stands there. -/
theorem number?_of_record?_eq {offset size : Nat} {record : ByteArray} (hsize : 0 < size)
    (h : d.record? offset size = some record) :
    Bytes.number? d.reader.data offset size = some (Bytes.littleEndian record : Int) := by
  rw [record?_eq_run? d offset hsize] at h
  rw [Bytes.number?, h, Option.map_some]

/-- Where a number stands there is a record. -/
theorem record?_of_number? {offset size : Nat} {n : Int} (hsize : 0 < size)
    (h : Bytes.number? d.reader.data offset size = some n) :
    ∃ record, d.record? offset size = some record
      ∧ (Bytes.littleEndian record : Int) = n := by
  obtain ⟨run, hrun, hn⟩ := Option.map_eq_some_iff.1 h
  exact ⟨run, (record?_eq_run? d offset hsize).trans hrun, hn⟩

/-- A record is there exactly when the file holds all of it. -/
theorem isSome_record?_iff {offset size : Nat} (hsize : 0 < size) :
    (d.record? offset size).isSome ↔ offset + size ≤ d.reader.size := by
  have hplace : (offset : Int) + size ≤ d.reader.data.size ↔ offset + size ≤ d.reader.size := by
    rw [Reader.size]
    omega
  rw [record?_eq_run? d offset hsize, Bytes.run?]
  by_cases hle : offset + size ≤ d.reader.size
  · rw [if_pos ⟨Int.natCast_nonneg offset, hplace.2 hle⟩]
    simp [hle]
  · rw [if_neg fun h => hle (hplace.1 h.2)]
    simp [hle]

theorem hasMark_eq_true_iff {offset : Nat} {mark : List UInt8} :
    d.hasMark offset mark = true ↔
      ∃ run, d.record? offset mark.length = some run ∧ run.data.toList = mark := by
  simp [hasMark, Option.any_eq_true]

/-- The records of a file header behind its signature. -/
structure FileRecords (d : Dissection) (offsetRun fileRun : ByteArray) : Prop where
  large : Header.minimumSize ≤ d.reader.size
  mark : d.hasMark 0 Header.dosMagic = true
  offset : d.record? Header.signatureOffsetAt 4 = some offsetRun
  signature : d.hasMark (Bytes.littleEndian offsetRun) Header.signature = true
  file : d.record? (Bytes.littleEndian offsetRun + 4) Header.File.recordSize = some fileRun

/-- What a file header adds. -/
def withFile (d : Dissection) (offsetRun fileRun : ByteArray) : Dissection :=
  { d with signatureAt := Bytes.littleEndian offsetRun, file := .decode fileRun }

@[simp] theorem reader_withFile (d : Dissection) (offsetRun fileRun : ByteArray) :
    (d.withFile offsetRun fileRun).reader = d.reader := rfl

@[simp] theorem optionalAt_withFile (d : Dissection) (offsetRun fileRun : ByteArray) :
    (d.withFile offsetRun fileRun).optionalAt = Bytes.littleEndian offsetRun + 24 := rfl

@[simp] theorem optionalSize_withFile (d : Dissection) (offsetRun fileRun : ByteArray) :
    (d.withFile offsetRun fileRun).file.optionalSize = Bytes.field fileRun 16 2 := by
  dsimp only [withFile, Header.File.decode]

/-- A file header is read where its records are, and nowhere else. -/
theorem readFile?_eq_some_iff {e : Dissection} :
    d.readFile? = some e ↔ ∃ offsetRun fileRun, d.FileRecords offsetRun fileRun
      ∧ d.withFile offsetRun fileRun = e := by
  constructor
  · intro h
    simp only [readFile?] at h
    split at h
    · cases h
    · next hlarge =>
      split at h
      · cases h
      · next hmark =>
        split at h
        · cases h
        · next offsetRun hoffset =>
          split at h
          · cases h
          · next hsignature =>
            obtain ⟨fileRun, hfile, rfl⟩ := Option.map_eq_some_iff.1 h
            exact ⟨offsetRun, fileRun,
              ⟨by omega, by simpa using hmark, hoffset, by simpa using hsignature, hfile⟩, rfl⟩
  · rintro ⟨offsetRun, fileRun, h, rfl⟩
    have hlarge : ¬ d.reader.size < Header.minimumSize := Nat.not_lt.2 h.large
    simp only [readFile?, hlarge, h.mark, h.offset, if_false, Bool.not_true,
      Bool.false_eq_true]
    simp only [h.signature, h.file, if_false, Bool.not_true, Bool.false_eq_true,
      Option.map_some]
    rfl

/-! ## The optional header -/

/-- Both layouts have two parts, and the number of directories is in the second one. -/
theorem layout_parts {magic : Nat} {layout : Header.Layout}
    (h : Header.layout? magic = some layout) :
    0 < layout.standardSize ∧ layout.directoryCountAt + 4 ≤ layout.systemSize := by
  simp only [Header.layout?] at h
  split at h
  · cases h
    decide
  · cases h
    decide
  · cases h

/-- The records of an optional header in front of its directories. -/
structure OptionalRecords (d : Dissection) (layout : Header.Layout)
    (magicRun standardRun systemRun : ByteArray) : Prop where
  declared : d.file.optionalSize ≠ 0
  magic : d.record? d.optionalAt 2 = some magicRun
  known : Header.layout? (Bytes.littleEndian magicRun) = some layout
  standard : d.record? d.optionalAt layout.standardSize = some standardRun
  system : d.record? (d.optionalAt + layout.standardSize) layout.systemSize = some systemRun

/-- Where the directories begin. -/
def directoriesAt (d : Dissection) (layout : Header.Layout) : Nat :=
  d.optionalAt + layout.standardSize + layout.systemSize

/-- What an optional header with its directories adds. -/
def withOptional (d : Dissection) (layout : Header.Layout)
    (magicRun standardRun systemRun : ByteArray) : Dissection :=
  let optional :=
    Header.Optional.decode layout (Bytes.littleEndian magicRun) standardRun systemRun
  { d with
    optional
    directories := d.readDirectories (d.directoriesAt layout) optional.directoryCount
    optionalRead := true }

@[simp] theorem bits?_withOptional (d : Dissection) (layout : Header.Layout)
    (magicRun standardRun systemRun : ByteArray) :
    (d.withOptional layout magicRun standardRun systemRun).bits? =
      (Header.layout? (Bytes.littleEndian magicRun)).map fun layout => (layout.bits : Int) := by
  dsimp only [withOptional, bits?, Header.Optional.decode]
  rfl

@[simp] theorem directories_withOptional (d : Dissection) (layout : Header.Layout)
    (magicRun standardRun systemRun : ByteArray) :
    (d.withOptional layout magicRun standardRun systemRun).directories =
      d.readDirectories (d.directoriesAt layout)
        (Bytes.field systemRun layout.directoryCountAt 4) := by
  dsimp only [withOptional, Header.Optional.decode]

/-- An optional header is read where its records are. -/
theorem OptionalRecords.readOptional_eq {layout : Header.Layout}
    {magicRun standardRun systemRun : ByteArray}
    (h : d.OptionalRecords layout magicRun standardRun systemRun) :
    d.readOptional = (d.withOptional layout magicRun standardRun systemRun, []) := by
  -- The number is noted first; that changes nothing of what is read behind it.
  have hat (noted : Header.Optional) :
      optionalAt { d with optional := noted } = d.optionalAt := rfl
  have hstandard (noted : Header.Optional) :
      record? { d with optional := noted } d.optionalAt layout.standardSize =
        some standardRun := h.standard
  have hsystem (noted : Header.Optional) :
      record? { d with optional := noted } (d.optionalAt + layout.standardSize)
        layout.systemSize = some systemRun := h.system
  simp only [readOptional, h.declared, if_false, h.magic, h.known, hat, hstandard, hsystem]
  rfl

/-- An optional header has its records, or nothing is read of it but perhaps its number. -/
theorem readOptional_cases (d : Dissection) :
    (∃ layout magicRun standardRun systemRun,
        d.OptionalRecords layout magicRun standardRun systemRun)
      ∨ ∃ optional notes, d.readOptional = ({ d with optional }, notes) := by
  rw [readOptional]
  split
  · exact .inr ⟨d.optional, _, rfl⟩
  · next hdeclared =>
    split
    · exact .inr ⟨d.optional, _, rfl⟩
    · next magicRun hmagic =>
      simp only
      split
      · exact .inr ⟨_, _, rfl⟩
      · next layout hlayout =>
        split
        · next standardRun systemRun hstandard hsystem =>
          exact .inl ⟨layout, magicRun, standardRun, systemRun, hdeclared, hmagic, hlayout,
            hstandard, hsystem⟩
        · exact .inr ⟨_, _, rfl⟩

/-- An optional header that was read completely had its records. -/
theorem optionalRecords_of_read (hbefore : d.optionalRead = false)
    (h : d.readOptional.1.optionalRead = true) :
    ∃ layout magicRun standardRun systemRun,
      d.OptionalRecords layout magicRun standardRun systemRun := by
  rcases d.readOptional_cases with hrecords | ⟨optional, notes, heq⟩
  · exact hrecords
  · rw [heq] at h
    exact absurd (hbefore.symm.trans h) Bool.false_ne_true

/-- The same file stays open behind the optional header. -/
theorem reader_readOptional (d : Dissection) : d.readOptional.1.reader = d.reader := by
  rcases d.readOptional_cases with ⟨layout, magicRun, standardRun, systemRun, hrecords⟩ |
    ⟨optional, notes, heq⟩
  · rw [hrecords.readOptional_eq]
    rfl
  · rw [heq]

/-! ## The section table -/

@[simp] theorem reader_readSectionTable (d : Dissection) :
    d.readSectionTable.1.reader = d.reader := rfl

@[simp] theorem bits?_readSectionTable (d : Dissection) :
    d.readSectionTable.1.bits? = d.bits? := rfl

@[simp] theorem directories_readSectionTable (d : Dissection) :
    d.readSectionTable.1.directories = d.directories := rfl

/-! ## All steps -/

/-- The headers and the section table behind a file header. -/
def readRest (d : Dissection) : Dissection := d.readOptional.1.readSectionTable.1

/-- Where the optional header has its records, the section table is read behind it. -/
theorem OptionalRecords.readRest_eq {layout : Header.Layout}
    {magicRun standardRun systemRun : ByteArray}
    (h : d.OptionalRecords layout magicRun standardRun systemRun) :
    d.readRest = (d.withOptional layout magicRun standardRun systemRun).readSectionTable.1 := by
  rw [readRest, h.readOptional_eq]

/-- Without an optional header the width is unknown. -/
theorem bits?_readRest (h : ¬ d.readOptional.1.optionalRead = true) :
    d.readRest.bits? = none := by
  rw [readRest, bits?_readSectionTable, bits?, if_neg h]

/-- The same file stays open while an image is taken apart. -/
theorem reader_readRest (d : Dissection) : d.readRest.reader = d.reader := by
  rw [readRest, reader_readSectionTable, reader_readOptional]

/-- The reading of the imports, once the headers are read. -/
def readImports (d : Dissection) (limits : Import.Limits) : Import.Outcome :=
  Import.read d.reader d.sections d.directories d.bits? limits

/-- What a parse leaves of an image whose headers are read. -/
def withImports (d : Dissection) (limits : Import.Limits) : Dissection :=
  { d with
    reader := (d.readImports limits).reader
    imports := (d.readImports limits).table
    parsed := true }

variable {limits : Import.Limits}

/-- An image with a file header is accepted, unless a setting is at fault. -/
theorem parse_of_readFile? {e : Dissection} (hfile : d.readFile? = some e)
    (hret : (e.readRest.readImports limits).fault? = none) :
    (d.parse limits).accepted = true ∧ (d.parse limits).fault? = none
      ∧ (d.parse limits).dissection = e.readRest.withImports limits := by
  rw [readImports, readRest] at hret
  simp only [parse, hfile, hret]
  exact ⟨trivial, trivial, rfl⟩

/-- An accepted image went through all steps. -/
theorem parse_of_accepted (h : (d.parse limits).accepted = true) :
    ∃ e, d.readFile? = some e ∧ (e.readRest.readImports limits).fault? = none
      ∧ (d.parse limits).dissection = e.readRest.withImports limits := by
  cases hfile : d.readFile? with
  | none =>
    rw [parse, hfile] at h
    cases h
  | some e =>
    cases hfault : (e.readRest.readImports limits).fault? with
    | none => exact ⟨e, rfl, hfault, (parse_of_readFile? hfile hfault).2.2⟩
    | some fault =>
      have himports : (Import.read e.readRest.reader e.readRest.sections
          e.readRest.directories e.readRest.bits? limits).fault? = some fault := hfault
      rw [readRest] at himports
      simp only [parse, hfile, himports] at h
      cases h

end ImageImports.Dissection

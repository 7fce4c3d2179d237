import ImageImports.Proofs.Image.Header

/-!
# Images without an import directory

An image may declare no imports: its directory array is too short to have a second entry, or
the address in that entry is zero.  The array may also be cut off by the end of the file.  An
entry that the file does not hold is taken for an empty one, so an image whose second entry
is missing is reported in the same way as an image that declares no imports, and nothing of
the damage is told.  All other damage to the optional header is told.

## Main results

* `Import.directoryPresent_read_iff` — when a table says that there is no directory.
* `undeclared_iff` — what the file of an accepted image holds then.
-/

namespace ImageImports

/-! ## The table of an image without a directory -/

namespace DataDirectory

theorem locate_eq_none_iff {directories : List DataDirectory} {sections : SectionMap}
    {index : Int} :
    locate directories sections index = .ok none ↔
      ∀ directory, entry? directories index = some directory → directory.rva = 0 := by
  simp only [locate]
  cases entry? directories index with
  | none => simp
  | some directory =>
    by_cases hzero : directory.rva = 0
    · simp [hzero]
    · cases hoffset : sections.toOffset? directory.rva with
      | none => simp [hzero, hoffset]
      | some offset => simp [hzero, hoffset]

end DataDirectory

namespace Import

variable (r : Reader) (sections : SectionMap) (directories : List DataDirectory)
  (bits : Option Int) (limits : Limits)

theorem directoryPresent_readAt (ctx : Context) (location : DataDirectory.Location) :
    (readAt ctx bits location r).table.directoryPresent = true := by
  simp only [readAt]
  split
  · rfl
  · split
    · rfl
    · rfl

/-- A table says that there is no directory exactly when the width is known and the second
entry is missing or empty; it is then an empty table without a failure. -/
theorem directoryPresent_read_iff :
    (read r sections directories bits limits).table.directoryPresent = false ↔
      (Width.ofBits? bits).isSome ∧ ∀ directory,
        DataDirectory.entry? directories DataDirectory.importIndex = some directory →
          directory.rva = 0 := by
  rw [← @DataDirectory.locate_eq_none_iff directories sections]
  rcases read_ways sections directories bits with ⟨hwidth, hread⟩ |
    ⟨width, hwidth, ⟨e, hlocate, hread⟩ | ⟨hlocate, hread⟩ | ⟨location, hlocate, hread⟩⟩
  · simp [hread, hwidth, outcome]
  · simp [hread, hlocate, outcome]
  · simp [hread, hwidth, hlocate, outcome]
  · simp [hread, hlocate, directoryPresent_readAt]

/-- A table that says that there is no directory is empty and has no failure. -/
theorem table_of_not_directoryPresent
    (h : (read r sections directories bits limits).table.directoryPresent = false) :
    (read r sections directories bits limits).table =
      { bits := ((Width.ofBits? bits).getD .narrow).bits, directoryPresent := false } := by
  rcases read_ways sections directories bits with ⟨-, hread⟩ |
    ⟨width, -, ⟨e, -, hread⟩ | ⟨-, hread⟩ | ⟨location, -, hread⟩⟩
  · rw [hread] at h
    cases h
  · rw [hread] at h
    cases h
  · rw [hread]
    rfl
  · rw [hread, directoryPresent_readAt] at h
    cases h

/-- A width that is unknown is told. -/
theorem error_of_width_unknown (h : Width.ofBits? bits = none) :
    (read r sections directories bits limits).table.error =
      some Cause.widthUnknown.failure := by
  rw [read, h]
  rfl

end Import

/-! ## The optional header by position -/

/-- The front of an optional header stands in a file, with its number of directories: the
signature is at `place`, the file header announces an optional header, and the file holds all
of it up to the directories. -/
structure OptionalStands (bytes : ByteArray) (layout : Header.Layout)
    (place count : Nat) : Prop where
  signature : Bytes.number? bytes 60 4 = some (place : Int)
  declared : ∃ size, Bytes.number? bytes (place + 20) 2 = some size ∧ size ≠ 0
  magic : ∃ magic : Nat, Bytes.number? bytes (place + 24) 2 = some (magic : Int)
    ∧ Header.layout? magic = some layout
  inside : place + 24 + layout.standardSize + layout.systemSize ≤ bytes.size
  directories : Bytes.number? bytes
    (place + 24 + layout.standardSize + layout.directoryCountAt) 4 = some (count : Int)

/-- Where the entry of the imports is. -/
def importEntryAt (layout : Header.Layout) (place : Nat) : Nat :=
  place + 24 + layout.standardSize + layout.systemSize + 8

/-- The second of `count` directories, at `offset`, declares no imports, or the file ends in
front of its end. -/
def EntryAbsent (bytes : ByteArray) (offset count : Nat) : Prop :=
  count < 2 ∨ bytes.size < offset + 8 ∨ Bytes.number? bytes offset 4 = some 0

namespace Dissection

variable {d : Dissection} {layout : Header.Layout}
  {offsetRun fileRun magicRun standardRun systemRun : ByteArray}

/-- The records of an optional header stand in the file. -/
theorem optionalStands_of_records (hfile : d.FileRecords offsetRun fileRun)
    (h : (d.withFile offsetRun fileRun).OptionalRecords layout magicRun standardRun
      systemRun) :
    OptionalStands d.reader.data layout (Bytes.littleEndian offsetRun)
      (Bytes.field systemRun layout.directoryCountAt 4) := by
  obtain ⟨hstandard, hcount⟩ := layout_parts h.known
  have hinside := (isSome_record?_iff (by omega)).1 (Option.isSome_of_eq_some h.system)
  have hsize := number?_of_record? hfile.file 16 2 (by decide) (by decide)
  have hmagic := number?_of_record?_eq (by decide) h.magic
  have hdirectories := number?_of_record? h.system layout.directoryCountAt 4 (by decide) hcount
  have hdeclared := h.declared
  rw [optionalSize_withFile] at hdeclared
  rw [optionalAt_withFile, reader_withFile] at hinside hmagic hdirectories
  push_cast [Int.add_assoc] at hsize hmagic hdirectories
  exact
    { signature := number?_of_record?_eq (by decide) hfile.offset
      declared := ⟨_, hsize, by exact_mod_cast hdeclared⟩
      magic := ⟨_, hmagic, h.known⟩
      inside := hinside
      directories := by simpa only [Int.add_assoc] using hdirectories }

/-- An optional header that stands in the file has its records. -/
theorem records_of_optionalStands (hfile : d.FileRecords offsetRun fileRun)
    {place count : Nat} (h : OptionalStands d.reader.data layout place count) :
    place = Bytes.littleEndian offsetRun ∧ ∃ magicRun standardRun systemRun,
      (d.withFile offsetRun fileRun).OptionalRecords layout magicRun standardRun systemRun
        ∧ Bytes.field systemRun layout.directoryCountAt 4 = count := by
  have hplace : place = Bytes.littleEndian offsetRun := by
    have hnumber := number?_of_record?_eq (by decide) hfile.offset
    have heq := Option.some.inj (h.signature.symm.trans hnumber)
    exact_mod_cast heq
  obtain ⟨magic, hmagic, hknown⟩ := h.magic
  obtain ⟨hstandard, hcount⟩ := layout_parts hknown
  have hinside := h.inside
  subst hplace
  let e := d.withFile offsetRun fileRun
  have hat : e.optionalAt = Bytes.littleEndian offsetRun + 24 := rfl
  have hmagicAt : Bytes.number? e.reader.data e.optionalAt 2 = some (magic : Int) := by
    rw [hat]
    push_cast
    exact hmagic
  obtain ⟨magicRun, hmagicRun, hmagicValue⟩ := record?_of_number? (by decide) hmagicAt
  have hsize : e.reader.size = d.reader.data.size := rfl
  have hstandardThere : (e.record? e.optionalAt layout.standardSize).isSome :=
    (isSome_record?_iff hstandard).2 (by omega)
  have hsystemThere :
      (e.record? (e.optionalAt + layout.standardSize) layout.systemSize).isSome :=
    (isSome_record?_iff (by omega)).2 (by omega)
  obtain ⟨standardRun, hstandardRun⟩ := Option.isSome_iff_exists.1 hstandardThere
  obtain ⟨systemRun, hsystemRun⟩ := Option.isSome_iff_exists.1 hsystemThere
  have hmagicEq : Bytes.littleEndian magicRun = magic := by exact_mod_cast hmagicValue
  refine ⟨rfl, magicRun, standardRun, systemRun, ?_, ?_⟩
  · exact
      { declared := by
          obtain ⟨size, hnumber, hne⟩ := h.declared
          have hfield := number?_of_record? hfile.file 16 2 (by decide) (by decide)
          push_cast [Int.add_assoc] at hfield
          have heq := Option.some.inj (hfield.symm.trans hnumber)
          rw [optionalSize_withFile]
          intro hzero
          rw [← heq, hzero] at hne
          exact hne rfl
        magic := hmagicRun
        known := by rw [hmagicEq, hknown]
        standard := hstandardRun
        system := hsystemRun }
  · have hfield := number?_of_record? hsystemRun layout.directoryCountAt 4 (by decide) hcount
    rw [hat] at hfield
    push_cast at hfield
    have heq := Option.some.inj (hfield.symm.trans h.directories)
    exact_mod_cast heq

/-! ## The second directory -/

/-- The second entry is missing or empty exactly when it is absent from the file. -/
theorem entry_readDirectories_iff (d : Dissection) (offset count : Nat) :
    (∀ directory, DataDirectory.entry? (d.readDirectories offset count)
        DataDirectory.importIndex = some directory → directory.rva = 0) ↔
      EntryAbsent d.reader.data (offset + 8) count := by
  have hentry : DataDirectory.entry? (d.readDirectories offset count)
      DataDirectory.importIndex = (d.readDirectories offset count)[1]? := rfl
  rw [hentry, readDirectories, List.getElem?_map, EntryAbsent]
  by_cases hfew : count < 2
  · have hnone : (List.range (min count Header.maxDirectories))[1]? = none := by
      rw [List.getElem?_eq_none_iff, List.length_range]
      omega
    simp [hnone, hfew]
  · have hsome : (List.range (min count Header.maxDirectories))[1]? = some 1 := by
      rw [List.getElem?_range]
      rw [Header.maxDirectories]
      omega
    have hat : offset + 1 * Header.directorySize = offset + 8 := rfl
    rw [hsome, Option.map_some, hat]
    simp only [Option.some.injEq, forall_eq', hfew, false_or]
    cases hrecord : d.record? (offset + 8) Header.directorySize with
    | none =>
      have hshort : d.reader.data.size < offset + 8 + 8 := by
        by_contra hlong
        have hthere : (d.record? (offset + 8) Header.directorySize).isSome :=
          (isSome_record?_iff (by decide)).2 (Nat.le_of_not_lt hlong)
        rw [hrecord] at hthere
        cases hthere
      simp [hshort]
    | some record =>
      have hlong := (isSome_record?_iff (by decide)).1 (Option.isSome_of_eq_some hrecord)
      have hshort : ¬ d.reader.data.size < offset + 8 + 8 := Nat.not_lt.2 hlong
      have hnumber := number?_of_record? hrecord 0 4 (by decide) (by decide)
      rw [Int.natCast_zero, Int.add_zero] at hnumber
      simp only [hshort, false_or, hnumber, Option.some.injEq, Header.decodeDirectory]

/-! ## Accepted images -/

variable {limits : Import.Limits}

/-- The table of an accepted image with an optional header. -/
theorem directoryPresent_of_records {e : Dissection}
    (h : e.OptionalRecords layout magicRun standardRun systemRun) :
    (e.readRest.readImports limits).table.directoryPresent = false ↔
      EntryAbsent e.reader.data (e.directoriesAt layout + 8)
        (Bytes.field systemRun layout.directoryCountAt 4) := by
  have hdirectories : e.readRest.directories = e.readDirectories (e.directoriesAt layout)
      (Bytes.field systemRun layout.directoryCountAt 4) := by
    rw [h.readRest_eq, directories_readSectionTable, directories_withOptional]
  have hbits : e.readRest.bits? = some (layout.bits : Int) := by
    rw [h.readRest_eq, bits?_readSectionTable, bits?_withOptional, h.known, Option.map_some]
  have hwidth : (Import.Width.ofBits? (some (layout.bits : Int))).isSome = true := by
    have hknown := h.known
    simp only [Header.layout?] at hknown
    split at hknown
    · cases hknown
      rfl
    · cases hknown
      rfl
    · cases hknown
  rw [readImports, Import.directoryPresent_read_iff, hbits, hdirectories,
    entry_readDirectories_iff, hwidth]
  exact and_iff_right rfl

end Dissection

/-- **What an image without imports holds**: an accepted image is reported to have no import
directory exactly when its optional header stands in the file and the entry of the imports is
not announced, or is zero, or is cut off by the end of the file.  Nothing else is reported
then: the table is empty and without a failure.  Where the optional header itself does not
stand in the file, that is told. -/
theorem undeclared_iff (name : String) (bytes : ByteArray) (limits : Import.Limits)
    (haccepted : ((Dissection.start name bytes).parse limits).accepted = true) :
    let imports := ((Dissection.start name bytes).parse limits).dissection.imports
    (imports.directoryPresent = false ↔
        ∃ layout place count, OptionalStands bytes layout place count
          ∧ EntryAbsent bytes (importEntryAt layout place) count)
      ∧ (imports.directoryPresent = false →
        imports.ok = true ∧ imports.libraries = [] ∧ imports.warnings = [])
      ∧ ((∀ layout place count, ¬ OptionalStands bytes layout place count) →
        ∃ f, imports.error = some f ∧ f.kind = .headerUnavailable) := by
  intro imports
  obtain ⟨e, hfile, -, hdissection⟩ := Dissection.parse_of_accepted haccepted
  have himports : imports = (e.readRest.readImports limits).table :=
    congrArg Dissection.imports hdissection
  obtain ⟨offsetRun, fileRun, hrecords, rfl⟩ := Dissection.readFile?_eq_some_iff.1 hfile
  rw [himports]
  refine ⟨⟨fun habsent => ?_, ?_⟩, fun habsent => ?_, fun hnone => ?_⟩
  · -- A table without a directory has a width, and so the optional header was read.
    have hread : (Dissection.withFile (.start name bytes) offsetRun
        fileRun).readOptional.1.optionalRead = true := by
      by_contra hunread
      rw [Dissection.readImports, Import.directoryPresent_read_iff,
        Dissection.bits?_readRest hunread] at habsent
      cases habsent.1
    obtain ⟨layout, magicRun, standardRun, systemRun, hoptional⟩ :=
      Dissection.optionalRecords_of_read rfl hread
    exact ⟨layout, _, _, Dissection.optionalStands_of_records hrecords hoptional,
      (Dissection.directoryPresent_of_records hoptional).1 habsent⟩
  · rintro ⟨layout, place, count, hstands, habsent⟩
    obtain ⟨rfl, magicRun, standardRun, systemRun, hoptional, rfl⟩ :=
      Dissection.records_of_optionalStands hrecords hstands
    exact (Dissection.directoryPresent_of_records hoptional).2 habsent
  · rw [Dissection.readImports] at habsent ⊢
    rw [Import.table_of_not_directoryPresent _ _ _ _ _ habsent]
    exact ⟨rfl, rfl, rfl⟩
  · have hunread : ¬ (Dissection.withFile (.start name bytes) offsetRun
        fileRun).readOptional.1.optionalRead = true := by
      intro hread
      obtain ⟨layout, magicRun, standardRun, systemRun, hoptional⟩ :=
        Dissection.optionalRecords_of_read rfl hread
      exact hnone _ _ _ (Dissection.optionalStands_of_records hrecords hoptional)
    rw [Dissection.readImports, Dissection.bits?_readRest hunread]
    exact ⟨_, Import.error_of_width_unknown _ _ _ _ _ rfl, rfl⟩

/-- An image that announces two directories and ends behind its optional header. -/
def cutImage : ByteArray :=
  ⟨#[0x4d, 0x5a] ++ Array.replicate 58 0 ++ #[0x40, 0, 0, 0, 0x50, 0x45, 0, 0,
    0x4c, 1, 0, 0, 0, 0, 0, 0, 0, 0, 0, 0, 0, 0, 0, 0, 0x70, 0, 2, 1,
    0x0b, 1] ++ Array.replicate 90 0 ++ #[2, 0, 0, 0]⟩

/-- What stands in the image, by position. -/
theorem cutImage_holds :
    cutImage.size = 184 ∧ Bytes.run? cutImage 0 2 = some ⟨#[0x4D, 0x5A]⟩
      ∧ Bytes.number? cutImage 60 4 = some 64
      ∧ Bytes.run? cutImage 64 4 = some ⟨#[0x50, 0x45, 0, 0]⟩
      ∧ Bytes.number? cutImage 84 2 = some 0x70 ∧ Bytes.number? cutImage 88 2 = some 0x10B
      ∧ Bytes.number? cutImage 180 4 = some 2 := by
  refine ⟨by simp [cutImage, ← ByteArray.size_data], ?_⟩
  decide +kernel

/-- The image is reported to declare no imports, though the entry of the imports is
announced and missing. -/
theorem undeclared_cutImage :
    let imports := ((Dissection.start "a.exe" cutImage).parse {}).dissection.imports
    OptionalStands cutImage Header.narrowLayout 64 2
      ∧ cutImage.size < importEntryAt Header.narrowLayout 64 + 8
      ∧ imports.directoryPresent = false ∧ imports.ok = true := by
  obtain ⟨hsize, -, hplace, -, hdeclared, hmagic, hcount⟩ := cutImage_holds
  have hshort : cutImage.size < importEntryAt Header.narrowLayout 64 + 8 := by
    rw [hsize]
    decide
  have hstands : OptionalStands cutImage Header.narrowLayout 64 2 :=
    { signature := hplace
      declared := ⟨0x70, hdeclared, by decide⟩
      magic := ⟨0x10B, hmagic, rfl⟩
      inside := by
        rw [hsize]
        decide
      directories := hcount }
  have hall := undeclared_iff "a.exe" cutImage {} (by decide +kernel)
  have habsent := hall.1.2 ⟨_, _, _, hstands, .inr (.inl hshort)⟩
  exact ⟨hstands, hshort, habsent, (hall.2.1 habsent).1⟩

end ImageImports

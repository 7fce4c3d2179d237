import ImageImports.Proofs.Image.Stored
import ImageImports.Proofs.Import.Labels
import ImageImports.Proofs.Success
import ImageImports.Report.Record
import Mathlib.Algebra.Ring.Nat

/-!
# Reports as records lose nothing

A report merges what is stored of an analysis with what follows from it: labels, flags,
counts, a date.  `readImage` takes an analysis out of its record again.  It looks every
field up by its name and takes the last one of that name, so it would notice if a derived
field stood in the way of a stored one.

What is derived is said about the record alone (`Tallies`): a reader who has nothing but the
record finds its counts and labels to be those of the libraries and entries listed in it.

An analysis has a record exactly when all its symbols can be listed.  What the record then is, is
told without asking whether they can (`imageForm`).

## Main results

* `imageRecord?_eq` — which analyses have a record, and what it is.
* `readImage_imageForm` — the record of an analysis gives the analysis back.
* `tallies_importsForm` — the counts and labels in a record are those of what it lists.
* `record_restores` — both, for the records of scans.
-/

namespace ImageImports.Report

open Schema (Checked required)

/-! ## Records that there are -/

/-- The record of a symbol. -/
def entryForm (e : Import.Entry) : Json :=
  .object (e.encodeFields ++ [("label", .text e.label)])

/-- The record of a library. -/
def libraryForm (l : Import.Library) : Json :=
  .object (l.descriptor.encodeFields ++
    [("functions", .ofTexts (l.entries.map (·.label))),
      ("entries", .list (l.entries.map entryForm))])

/-- The record of a table of imports. -/
def importsForm (t : Import.Table) : Json :=
  .object
    [("status", .text t.status), ("bits", .int t.bits),
      ("directory_present", .bool t.directoryPresent), ("error", Import.Failure.encode? t.error),
      ("warnings", .ofTexts t.warnings), ("library_count", .int t.libraries.length),
      ("entry_count", .int t.entryCount), ("libraries", .list (t.libraries.map libraryForm))]

/-- The record of an analysis. -/
def imageForm (a : Analysis) : Json :=
  .object
    [("info", .object
        (a.info.encodeFields ++ [("compiled_at", .ofText? (a.info.linkedAt?.map (·.isoText)))])),
      ("parsed", .bool a.parsed),
      ("sections", .list (a.sections.map fun s =>
        .object (s.encodeFields ++ [("flags", .text s.flags)]))),
      ("data_directories", .list (a.directories.map DataDirectory.encode)),
      ("imports", importsForm a.imports)]

theorem entryRecord?_eq (e : Import.Entry) :
    entryRecord? e = if e.Listable then some (entryForm e) else none := by
  rw [entryRecord?, Import.Entry.label?_eq, apply_ite (Option.map _)]
  rfl

theorem libraryRecord?_eq (l : Import.Library) : libraryRecord? l =
    if ∀ e ∈ l.entries, e.Listable then some (libraryForm l) else none := by
  rw [libraryRecord?, l.labels?_eq, mapM_eq_ite entryRecord?_eq l.entries]
  split
  · rfl
  · rfl

theorem importsRecord?_eq (t : Import.Table) :
    importsRecord? t = if t.Listable then some (importsForm t) else none := by
  rw [importsRecord?, mapM_eq_ite libraryRecord?_eq t.libraries]
  split
  · next h =>
    rw [if_pos (show t.Listable from h)]
    rfl
  · next h =>
    rw [if_neg (show ¬ t.Listable from h)]
    rfl

/-- An analysis has a record when all its symbols can be listed. -/
theorem imageRecord?_eq (a : Analysis) :
    imageRecord? a = if a.imports.Listable then some (imageForm a) else none := by
  rw [imageRecord?, importsRecord?_eq]
  split
  · rfl
  · rfl

/-- The field for an analysis is its record, if there is one. -/
theorem imageField_eq_ok_iff {analysis? : Option Analysis} {fields : List (String × Json)} :
    imageField analysis? = .ok fields ↔ (∀ a, analysis? = some a → a.imports.Listable)
      ∧ fields = analysis?.toList.map fun a => ("image", imageForm a) := by
  cases analysis? with
  | none =>
    rw [imageField, Except.ok.injEq, eq_comm]
    exact (and_iff_right fun a h => by cases h).symm
  | some a =>
    rw [imageField, imageRecord?_eq]
    by_cases h : a.imports.Listable
    · rw [if_pos h]
      simp only [Except.ok.injEq, Option.some.injEq, forall_eq', h, true_and]
      exact eq_comm
    · rw [if_neg h]
      simp only [reduceCtorEq, Option.some.injEq, forall_eq', h, false_and]

/-! ## Reading a record back -/

/-- The library that a record stands for, which holds the descriptor's fields next to the
entries. -/
def readLibrary (j : Json) : Checked Import.Library :=
  (Schema.record j).bind fun fields =>
    Import.Library.mk
      <$> Import.Descriptor.read j
      <*> required fields "entries" (Schema.list Import.Entry.read)

/-- The table of imports that a record stands for. -/
def readImports (j : Json) : Checked Import.Table :=
  (Schema.record j).bind fun fields =>
    Import.Table.mk
      <$> required fields "libraries" (Schema.list readLibrary)
      <*> required fields "bits" Schema.integer
      <*> required fields "directory_present" Schema.truth
      <*> required fields "error" (Schema.optional Import.Failure.read)
      <*> required fields "warnings" (Schema.list Schema.text)

/-- The analysis that a record stands for. -/
def readImage (j : Json) : Checked Analysis :=
  (Schema.record j).bind fun fields =>
    Analysis.mk
      <$> required fields "info" ImageInfo.decode
      <*> required fields "sections" (Schema.list Section.decode)
      <*> required fields "data_directories" (Schema.list DataDirectory.decode)
      <*> required fields "imports" readImports
      <*> required fields "parsed" Schema.truth

/-- An entry is read back from its record, whose label is another field. -/
theorem read_entryForm (e : Import.Entry) : Import.Entry.read (entryForm e) = .ok e := by
  obtain ⟨raw, isOrdinal, payload, hint, name⟩ := e
  cases hint with
  | none => rfl
  | some n => rfl

theorem readLibrary_libraryForm (l : Import.Library) :
    readLibrary (libraryForm l) = .ok l := by
  have hdescriptor : Import.Descriptor.read (libraryForm l) = .ok l.descriptor := rfl
  have hentries := Schema.list_map read_entryForm l.entries
  show ((Import.Descriptor.read (libraryForm l)).map Import.Library.mk).seq
    ((Schema.list Import.Entry.read (.list (l.entries.map entryForm))).within "entries") = _
  rw [hdescriptor, hentries]
  rfl

theorem readImports_importsForm (t : Import.Table) :
    readImports (importsForm t) = .ok t := by
  have hlibraries := Schema.list_map readLibrary_libraryForm t.libraries
  have herror := Import.Failure.read_encode? t.error
  have hwarnings : Schema.list Schema.text (.ofTexts t.warnings) = .ok t.warnings :=
    Schema.list_map (f := .text) (fun _ => rfl) t.warnings
  show (((((Schema.list readLibrary (.list (t.libraries.map libraryForm))).within "libraries"
      |>.map Import.Table.mk).seq (.ok t.bits)).seq (.ok t.directoryPresent)).seq
    ((Schema.optional Import.Failure.read (Import.Failure.encode? t.error)).within "error")).seq
    ((Schema.list Schema.text (.ofTexts t.warnings)).within "warnings") = _
  rw [hlibraries, herror, hwarnings]
  rfl

/-- A section is read back from its record, whose flags are another field. -/
theorem decode_sectionRecord (s : Section) :
    Section.decode (.object (s.encodeFields ++ [("flags", .text s.flags)])) = .ok s := rfl

/-- The record of an analysis gives the analysis back. -/
theorem readImage_imageForm (a : Analysis) : readImage (imageForm a) = .ok a := by
  have hinfo : ImageInfo.decode (.object (a.info.encodeFields
      ++ [("compiled_at", .ofText? (a.info.linkedAt?.map (·.isoText)))])) = .ok a.info := rfl
  have hsections := Schema.list_map decode_sectionRecord a.sections
  have hdirectories := Schema.list_map DataDirectory.decode_encode a.directories
  have himports := readImports_importsForm a.imports
  show (((((ImageInfo.decode (.object (a.info.encodeFields
      ++ [("compiled_at", .ofText? (a.info.linkedAt?.map (·.isoText)))]))).within "info"
      |>.map Analysis.mk).seq
    ((Schema.list Section.decode (.list (a.sections.map fun s =>
      .object (s.encodeFields ++ [("flags", .text s.flags)])))).within "sections")).seq
    ((Schema.list DataDirectory.decode
      (.list (a.directories.map DataDirectory.encode))).within "data_directories")).seq
    ((readImports (importsForm a.imports)).within "imports")).seq (.ok a.parsed) = _
  rw [hinfo, hsections, hdirectories, himports]
  rfl

/-- Two analyses of which the records are the same are the same. -/
theorem imageForm_injective : Function.Injective imageForm := by
  intro a b hrecord
  have hback := readImage_imageForm a
  rw [hrecord, readImage_imageForm b] at hback
  injection hback with hback
  exact hback.symm

/-! ## Counts and labels -/

/-- The items that a field of a record lists. -/
def listed (j : Json) (name : String) : List Json :=
  match j.field? name with
  | some (.list items) => items
  | _ => []

/-- What an entry is to be listed as, by its other fields: an ordinal by its number, anything
else by its name. -/
def labelOf? (entry : Json) : Option Json :=
  match entry.field? "is_ordinal", entry.field? "ordinal_or_rva" with
  | some (.bool true), some (.int n) => some (.text s!"#{n}")
  | some (.bool false), _ => entry.field? "name"
  | _, _ => none

/-- Whether the counts and labels of a table of imports are those of what it lists. -/
structure Tallies (imports : Json) : Prop where
  libraryCount :
    imports.field? "library_count" = some (.int (listed imports "libraries").length)
  entryCount : imports.field? "entry_count" =
    some (.int ((listed imports "libraries").map fun l => (listed l "entries").length).sum)
  /-- The symbols of a library are its entries' labels, one for one. -/
  functions : ∀ l ∈ listed imports "libraries",
    (listed l "functions").map some = (listed l "entries").map (·.field? "label")
  labels : ∀ l ∈ listed imports "libraries", ∀ e ∈ listed l "entries",
    (labelOf? e).isSome ∧ e.field? "label" = labelOf? e

theorem listed_libraries (t : Import.Table) :
    listed (importsForm t) "libraries" = t.libraries.map libraryForm := rfl

theorem listed_entries (l : Import.Library) :
    listed (libraryForm l) "entries" = l.entries.map entryForm := rfl

theorem listed_functions (l : Import.Library) :
    listed (libraryForm l) "functions" = (l.entries.map (·.label)).map .text := rfl

/-- An entry's label is what its other fields give. -/
theorem labelOf?_entryForm (e : Import.Entry) :
    labelOf? (entryForm e) = some (.text e.label) := by
  obtain ⟨raw, isOrdinal, payload, hint, name⟩ := e
  cases isOrdinal with
  | false => rfl
  | true => rfl

theorem entryCount_eq_sum (t : Import.Table) :
    t.entryCount = (t.libraries.map (·.entries.length)).sum := by
  rw [List.sum_eq_foldr, List.foldr_map]
  rfl

theorem tallies_importsForm (t : Import.Table) : Tallies (importsForm t) where
  libraryCount := by
    rw [listed_libraries, List.length_map]
    rfl
  entryCount := by
    have hlengths : (t.libraries.map libraryForm).map (fun l => (listed l "entries").length)
        = t.libraries.map (·.entries.length) := by
      rw [List.map_map]
      refine List.map_congr_left fun l _ => ?_
      show (listed (libraryForm l) "entries").length = _
      rw [listed_entries, List.length_map]
    rw [listed_libraries, hlengths, ← entryCount_eq_sum]
    rfl
  functions := by
    intro record hrecord
    rw [listed_libraries] at hrecord
    obtain ⟨l, -, rfl⟩ := List.mem_map.mp hrecord
    rw [listed_functions, listed_entries, List.map_map, List.map_map, List.map_map]
    exact List.map_congr_left fun e _ => rfl
  labels := by
    intro record hrecord entry hentry
    rw [listed_libraries] at hrecord
    obtain ⟨l, -, rfl⟩ := List.mem_map.mp hrecord
    rw [listed_entries] at hentry
    obtain ⟨e, -, rfl⟩ := List.mem_map.mp hentry
    rw [labelOf?_entryForm]
    exact ⟨rfl, rfl⟩

/-! ## Records of scans -/

/-- The image in the record of a scan is the record of the analysis that the scan keeps. -/
theorem image_scanRecord {scan : Scan} {entry : Json} (h : scanRecord scan = .ok entry) :
    ∃ analysis?, storedAnalysis scan = .ok analysis?
      ∧ entry.field? "image" = analysis?.map imageForm := by
  obtain ⟨duration, -, h⟩ := bind_eq_ok_iff.1 h
  obtain ⟨analysis?, hstored, h⟩ := bind_eq_ok_iff.1 h
  obtain ⟨fields, hfields, h⟩ := bind_eq_ok_iff.1 h
  cases h
  refine ⟨analysis?, hstored, ?_⟩
  rw [(imageField_eq_ok_iff.1 hfields).2]
  cases analysis? with
  | none => rfl
  | some a => rfl

/-- A report's records lose nothing.  An analysis has a record exactly when all its symbols can be
listed, and the record gives the analysis back; so two scans whose records hold the same image keep
the same analysis; and in every record the counts and the labels are those of the libraries and
entries that it lists. -/
theorem record_restores :
    (∀ a, (a.imports.Listable → ∃ image, imageRecord? a = some image ∧ readImage image = .ok a)
      ∧ (¬ a.imports.Listable → imageRecord? a = none))
    ∧ (∀ scan other entry otherEntry,
        scanRecord scan = .ok entry → scanRecord other = .ok otherEntry →
        entry.field? "image" = otherEntry.field? "image" →
        storedAnalysis scan = storedAnalysis other)
    ∧ (∀ scan entry image, scanRecord scan = .ok entry → entry.field? "image" = some image →
        ∃ imports, image.field? "imports" = some imports ∧ Tallies imports) := by
  refine ⟨fun a => ⟨fun h => ?_, fun h => ?_⟩, ?_, ?_⟩
  · exact ⟨imageForm a, (imageRecord?_eq a).trans (if_pos h), readImage_imageForm a⟩
  · exact (imageRecord?_eq a).trans (if_neg h)
  · intro scan other entry otherEntry hentry hother hsame
    obtain ⟨analysis?, hstored, himage⟩ := image_scanRecord hentry
    obtain ⟨otherAnalysis?, hotherStored, hotherImage⟩ := image_scanRecord hother
    have hrecords : analysis?.map imageForm = otherAnalysis?.map imageForm := by
      rw [← himage, ← hotherImage, hsame]
    have hanalyses := Option.map_injective imageForm_injective hrecords
    rw [hstored, hotherStored, hanalyses]
  · intro scan entry image hentry hhas
    obtain ⟨analysis?, -, himage⟩ := image_scanRecord hentry
    rw [himage, Option.map_eq_some_iff] at hhas
    obtain ⟨a, -, rfl⟩ := hhas
    exact ⟨importsForm a.imports, rfl, tallies_importsForm a.imports⟩

/-- An analysis with a symbol known by number, one known by name, and a library without any. -/
def sampleAnalysis : Analysis where
  imports :=
    { libraries :=
        [{ descriptor := { name := "user.dll", firstThunk := 0x2000 }
           entries :=
            [{ raw := 0x80000007, isOrdinal := true, payload := 7 },
              { raw := 0x2100, payload := 0x2100, hint := some 0, name := "exit" }] },
          { descriptor := { name := "empty.dll" } }]
      error := some { kind := .possibleLoop, offset := some 64 } }
  parsed := true

/-- A scan that keeps the sample analysis. -/
def sampleScan (summary : String) : Scan where
  toolName := "pescope"
  target := "sample.exe"
  started := default
  summary := summary
  metadata := [(Analysis.storedName, sampleAnalysis.encode)]

/-- Two scans of one image with different summaries. -/
theorem record_restores_sample :
    ∃ image entry otherEntry imports,
      sampleAnalysis.imports.Listable
      ∧ imageRecord? sampleAnalysis = some image ∧ readImage image = .ok sampleAnalysis
      ∧ scanRecord (sampleScan "first") = .ok entry
      ∧ scanRecord (sampleScan "second") = .ok otherEntry
      ∧ storedAnalysis (sampleScan "first") = storedAnalysis (sampleScan "second")
      ∧ image.field? "imports" = some imports ∧ Tallies imports := by
  obtain ⟨hback, hsame, htallies⟩ := record_restores
  have hlistable : sampleAnalysis.imports.Listable := by decide +kernel
  have hrecord : imageRecord? sampleAnalysis = some (imageForm sampleAnalysis) :=
    (imageRecord?_eq sampleAnalysis).trans (if_pos hlistable)
  obtain ⟨image, himage, hread⟩ := (hback sampleAnalysis).1 hlistable
  obtain rfl : imageForm sampleAnalysis = image := Option.some.inj (hrecord.symm.trans himage)
  have hscan (summary : String) : ∃ entry, scanRecord (sampleScan summary) = .ok entry
      ∧ entry.field? "image" = some (imageForm sampleAnalysis) := by
    have hfield : imageField (some sampleAnalysis) =
        .ok [("image", imageForm sampleAnalysis)] := by
      rw [imageField, hrecord]
    have hstored : storedAnalysis (sampleScan summary) = .ok (some sampleAnalysis) := rfl
    have hduration : durationRecord (sampleScan summary) = .ok .null := rfl
    rw [scanRecord, hstored, hduration]
    simp only [bind, Except.bind, hfield]
    exact ⟨_, rfl, rfl⟩
  obtain ⟨entry, hentry, hfirst⟩ := hscan "first"
  obtain ⟨otherEntry, hother, hsecond⟩ := hscan "second"
  obtain ⟨imports, himports, hsums⟩ := htallies (sampleScan "first") entry _ hentry hfirst
  exact ⟨_, entry, otherEntry, imports, hlistable, hrecord, hread, hentry, hother,
    hsame _ _ _ _ hentry hother (hfirst.trans hsecond.symm), himports, hsums⟩

end ImageImports.Report

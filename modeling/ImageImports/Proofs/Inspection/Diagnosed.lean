import ImageImports.Proofs.Image.Appended
import ImageImports.Proofs.Image.Undeclared
import ImageImports.Proofs.Inspection.Kept
import ImageImports.Proofs.Inspection.Told
import ImageImports.Proofs.Report.Record

/-!
# What is found reflects the analysis

Findings are made as they were drafted, so a finding holds a warning as it was given, and the
findings can be counted: which of them there are follows from the analysis.  The analyses of bytes
are not of every kind.  An image that declares no imports has neither a failure nor warnings.

## Main results

* `Analysis.reflected_drafts` — the drafts about an analysis whose table was read.
* `Inspection.analyze_reflected` — the findings and the summary of an analysis of bytes.
-/

namespace ImageImports

open Text (Snug)

/-! ## Tables that are read -/

namespace Import

/-- A table that a reading can leave: its warnings are snug, and one that says that there is no
directory is empty. -/
structure Table.Readable (t : Table) : Prop where
  snug : ∀ warning ∈ t.warnings, Snug warning
  absent : t.directoryPresent = false → t.libraries = [] ∧ t.error = none ∧ t.warnings = []

theorem readable_read (r : Reader) (sections : SectionMap) (directories : List DataDirectory)
    (bits : Option Int) (limits : Limits) :
    (read r sections directories bits limits).table.Readable where
  snug _ h := snug_of_mem_warnings h
  absent h := by
    rw [table_of_not_directoryPresent _ _ _ _ _ h]
    exact ⟨rfl, rfl, rfl⟩

end Import

/-! ## Findings and summary -/

namespace Analysis

/-- The number of symbols that were read, over all libraries. -/
def symbolCount (t : Import.Table) : Nat := (t.libraries.map (·.entries.length)).sum

/-- A finding tells of the failure of a table, with the numbers of what was read before it. -/
structure TellsFailure (t : Import.Table) (error : Import.Failure) (f : Finding) : Prop where
  severity : f.severity = .medium
  description : f.description =
    s!"Import parsing stopped ({error.kind.word}): {error.message} {t.libraries.length} "
      ++ s!"libraries and {symbolCount t} imports were recovered."
  evidence : f.evidence = (Json.object
    [("kind", .text error.kind.word), ("offset", .ofInt? error.offset),
      ("library", .text error.library), ("libraries_recovered", .int t.libraries.length),
      ("imports_recovered", .int (symbolCount t))]).compact

/-- Findings about an image come in three groups: that there are no imports, that the reading of
the imports failed, and the warnings, each as it was given. -/
structure Grouped (t : Import.Table) (found absent failed warned : List Finding) : Prop where
  eq_append : found = absent ++ failed ++ warned
  absent_info : ∀ f ∈ absent, f.severity = .info
  length_absent : absent.length = if t.directoryPresent then 0 else 1
  failed_told : List.Forall₂ (TellsFailure t) t.error.toList failed
  warned_low : ∀ f ∈ warned, f.severity = .low
  warned_told : warned.map (·.description) = t.warnings

/-- What is found about an analysis, and its summary, are what the analysis says. -/
structure Reflected (a : Analysis) (found : List Finding) : Prop where
  refused : a.parsed = false → ∃ f, found = [f] ∧ f.severity = .high
  grouped : a.parsed = true → ∃ absent failed warned, Grouped a.imports found absent failed warned
  alone : ∀ f ∈ found, f.severity = .info →
    ∀ g ∈ found, g.severity ≠ .medium ∧ g.severity ≠ .low
  summarized : a.parsed = true → ∃ status,
    a.summary found.length = " | ".intercalate
        [s!"Analysis complete: {formatWord a.info.bits}", s!"{a.info.arch} {a.info.bits}-bit",
          s!"Sections: {a.sections.length}", s!"Libraries: {a.imports.libraries.length}",
          s!"Imports: {symbolCount a.imports}", s!"Import parse: {status}",
          s!"Findings: {found.length}"]
      ∧ (status = "ok" ↔ ∀ f ∈ found, f.severity ≠ .medium)

theorem tellsFailure_abortedImports (t : Import.Table) (error : Import.Failure) :
    TellsFailure t error (abortedImports t error) where
  severity := rfl
  description := by
    rw [symbolCount, ← Report.entryCount_eq_sum]
    rfl
  evidence := by
    rw [symbolCount, ← Report.entryCount_eq_sum]
    rfl

/-- The drafts about an image, by groups. -/
theorem grouped_drafts {a : Analysis} (hparsed : a.parsed = true) :
    Grouped a.imports a.drafts (if a.imports.directoryPresent then [] else [noImports])
      (a.imports.error.map (abortedImports a.imports)).toList (a.imports.warnings.map anomaly) where
  eq_append := by rw [drafts, if_pos hparsed]
  absent_info f hf := by
    split at hf
    · cases hf
    · rw [List.mem_singleton.1 hf]
      rfl
  length_absent := by
    split <;> rfl
  failed_told := by
    cases a.imports.error with
    | none => exact .nil
    | some error => exact .cons (tellsFailure_abortedImports a.imports error) .nil
  warned_low f hf := by
    obtain ⟨warning, -, rfl⟩ := List.mem_map.1 hf
    rfl
  warned_told := by
    rw [List.map_map]
    exact List.map_id _

/-- The drafts about an image, one by one. -/
theorem mem_drafts_iff {a : Analysis} (hparsed : a.parsed = true) {f : Finding} :
    f ∈ a.drafts ↔ (a.imports.directoryPresent = false ∧ f = noImports)
      ∨ (∃ error, a.imports.error = some error ∧ f = abortedImports a.imports error)
      ∨ ∃ warning ∈ a.imports.warnings, f = anomaly warning := by
  have habsent : (f ∈ if a.imports.directoryPresent then [] else [noImports]) ↔
      a.imports.directoryPresent = false ∧ f = noImports := by
    cases a.imports.directoryPresent <;> simp
  have hfailed : f ∈ (a.imports.error.map (abortedImports a.imports)).toList ↔
      ∃ error, a.imports.error = some error ∧ f = abortedImports a.imports error := by
    rw [Option.mem_toList, Option.map_eq_some_iff]
    simp only [eq_comm]
  have hwarned : f ∈ a.imports.warnings.map anomaly ↔
      ∃ warning ∈ a.imports.warnings, f = anomaly warning := by
    rw [List.mem_map]
    simp only [eq_comm]
  rw [(grouped_drafts hparsed).eq_append, List.mem_append, List.mem_append, habsent, hfailed,
    hwarned, or_assoc]

/-- The drafts about an image tell of a failure exactly if there is one. -/
theorem medium_drafts_iff {a : Analysis} (hparsed : a.parsed = true) :
    (∀ f ∈ a.drafts, f.severity ≠ .medium) ↔ a.imports.error = none := by
  constructor
  · intro h
    rw [Option.eq_none_iff_forall_ne_some]
    intro error herror
    exact h _ ((mem_drafts_iff hparsed).2 (.inr (.inl ⟨error, herror, rfl⟩))) rfl
  · intro hnone f hf
    rcases (mem_drafts_iff hparsed).1 hf with ⟨-, rfl⟩ | ⟨error, herror, -⟩ | ⟨warning, -, rfl⟩
    · decide
    · cases hnone.symm.trans herror
    · exact fun h => by cases h

/-- Where there are no imports, nothing else is drafted. -/
theorem drafts_of_absent {a : Analysis} (h : a.imports.Readable) (hparsed : a.parsed = true)
    (habsent : a.imports.directoryPresent = false) : a.drafts = [noImports] := by
  obtain ⟨-, herror, hwarnings⟩ := h.absent habsent
  rw [(grouped_drafts hparsed).eq_append, habsent, herror, hwarnings]
  rfl

theorem importOutcome_eq_ok_iff {t : Import.Table} : importOutcome t = "ok" ↔ t.error = none := by
  rw [importOutcome]
  cases t.error with
  | none => exact iff_of_true rfl rfl
  | some error =>
    refine iff_of_false (fun h => ?_) fun h => by cases h
    have hlength : ("aborted (" ++ error.kind.word ++ ")").length = "ok".length :=
      congrArg String.length h
    have hopening : "aborted (".length = 9 := by decide
    have hok : "ok".length = 2 := by decide
    rw [String.length_append, String.length_append, hopening, hok] at hlength
    omega

/-- The drafts about an analysis whose table can be read reflect it. -/
theorem reflected_drafts {a : Analysis} (h : a.imports.Readable) : Reflected a a.drafts where
  refused hparsed := by
    rw [drafts, if_neg (by rw [hparsed]; exact Bool.false_ne_true)]
    exact ⟨_, rfl, rfl⟩
  grouped hparsed := ⟨_, _, _, grouped_drafts hparsed⟩
  alone f hf hinfo := by
    cases hparsed : a.parsed with
    | true =>
      rcases (mem_drafts_iff hparsed).1 hf with
        ⟨habsent, -⟩ | ⟨error, -, rfl⟩ | ⟨warning, -, rfl⟩
      · rw [drafts_of_absent h hparsed habsent]
        intro g hg
        rw [List.mem_singleton.1 hg]
        decide
      · cases hinfo
      · cases hinfo
    | false =>
      rw [drafts, if_neg (by rw [hparsed]; exact Bool.false_ne_true)] at hf
      rw [List.mem_singleton.1 hf] at hinfo
      cases hinfo
  summarized hparsed := by
    refine ⟨importOutcome a.imports, ?_,
      importOutcome_eq_ok_iff.trans (medium_drafts_iff hparsed).symm⟩
    rw [summary, if_pos hparsed, symbolCount, ← Report.entryCount_eq_sum]

end Analysis

namespace Inspection

variable {limits : Import.Limits} {path : String} {bytes : ByteArray}

/-- The table of an analysis of bytes was read from them, or there is none. -/
theorem readable_of_analyze {a : Analysis} (h : analyze limits path bytes = .ok a) :
    a.imports.Readable := by
  rw [analyze] at h
  simp only at h
  split at h
  · cases h
  · cases h
    split
    · next haccepted =>
      obtain ⟨r, sections, directories, bits, hread⟩ :=
        Dissection.exists_read_of_accepted haccepted
      show (Dissection.parse _ _).dissection.imports.Readable
      rw [hread]
      exact Import.readable_read r sections directories bits limits
    · exact
        { snug := fun warning hwarning => by cases hwarning
          absent := fun habsent => by cases habsent }

/-- **Findings and summary reflect the analysis of the bytes**, whatever the bytes and the limits
are; and under whole limits there is an analysis. -/
theorem analyze_reflected (limits : Import.Limits) (path : String) (bytes : ByteArray) :
    (limits.Whole → ∃ a, analyze limits path bytes = .ok a)
      ∧ ∀ a, analyze limits path bytes = .ok a →
        ∃ found, a.findings = .ok found ∧ Analysis.Reflected a found := by
  constructor
  · intro hlimits
    obtain ⟨a, ha, -⟩ := exists_analysis hlimits path bytes
    exact ⟨a, ha⟩
  · intro a ha
    have hreadable := readable_of_analyze ha
    exact ⟨a.drafts, Analysis.findings_eq hreadable.snug, Analysis.reflected_drafts hreadable⟩

/-- An image that imports from one library, whose lookup table is nowhere; the record behind it has
no name. -/
def damagedImage : ByteArray := sampleHeaders ++ ⟨#[
  0, 0x90, 0, 0, 0, 0, 0, 0, 0, 0, 0, 0, 0x28, 0x10, 0, 0, 0, 0x90, 0, 0,
  0, 0x90, 0, 0, 0, 0, 0, 0, 0, 0, 0, 0, 0, 0x90, 0, 0, 0, 0x90, 0, 0,
  0x61, 0x2e, 0x64, 0x6c, 0x6c, 0, 0, 0,
  0, 0, 0, 0, 0, 0, 0, 0, 0, 0, 0, 0, 0, 0, 0, 0]⟩

/-- The image is analysed; the failure and the warning about it are what is found. -/
theorem analyze_reflected_damagedImage :
    ∃ a found, analyze {} "a.exe" damagedImage = .ok a ∧ a.findings = .ok found
      ∧ a.parsed = true ∧ a.imports.error.map (·.kind) = some .lookupTableUnreachable
      ∧ a.imports.libraries.map (·.name) = ["a.dll"] ∧ a.imports.warnings.length = 1
      ∧ Analysis.Reflected a found := by
  obtain ⟨hexists, hall⟩ := analyze_reflected {} "a.exe" damagedImage
  obtain ⟨a, ha⟩ := hexists Import.Limits.whole_default
  obtain ⟨found, hfound, hreflected⟩ := hall a ha
  have hread : (analyze {} "a.exe" damagedImage).toOption.map (fun a =>
      (a.parsed, a.imports.error.map (·.kind), a.imports.libraries.map (·.name),
        a.imports.warnings.length)) =
      some (true, some .lookupTableUnreachable, ["a.dll"], 1) := by
    decide +kernel
  rw [ha] at hread
  simp only [Except.toOption, Option.map_some, Option.some.injEq, Prod.mk.injEq] at hread
  obtain ⟨hparsed, hkind, hlibraries, hwarnings⟩ := hread
  exact ⟨a, found, ha, hfound, hparsed, hkind, hlibraries, hwarnings, hreflected⟩

end Inspection

end ImageImports

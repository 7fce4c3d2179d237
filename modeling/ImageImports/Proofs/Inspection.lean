import ImageImports.Proofs.Console.Display
import ImageImports.Proofs.Image.Findings
import ImageImports.Proofs.Image.Stored
import ImageImports.Proofs.Import.Labels
import ImageImports.Proofs.PathName

/-!
# Inspections under the default settings

Unless settings are given, an inspection never fails: every file that can be read gets a
scan, and the scan keeps the analysis of its bytes in a form that is read back.  A file
beyond the size limit gets a scan without an analysis.

## Main results

* `analyze_default` — bytes always have an analysis, and what is told of it is wording.
* `scanBatch_default` — a batch of readable files gives one scan for each.
-/

namespace ImageImports

open Calendar (Instant Span)
open Console (Quiet ToldInWording)
open Text (NotBlank)

/-! ## Taking an image apart -/

namespace Dissection

variable {limits : Import.Limits}

/-- Where the limits are whole numbers, taking an image apart is no fault of theirs. -/
theorem fault?_parse (hlimits : limits.Whole) (d : Dissection) :
    (d.parse limits).fault? = none := by
  rw [parse]
  split
  · rfl
  · simp only [hlimits.read_returned]

/-- An accepted image is marked as parsed, no warning about it is blank, and its symbols can be
listed. -/
theorem dissection_parse (hlimits : limits.Whole) {d : Dissection}
    (h : (d.parse limits).accepted = true) :
    (d.parse limits).dissection.parsed = true
      ∧ (∀ warning ∈ (d.parse limits).dissection.imports.warnings, NotBlank warning)
      ∧ (d.parse limits).dissection.imports.Listable := by
  rw [parse] at h ⊢
  split at h
  · cases h
  · simp only [hlimits.read_returned]
    exact ⟨trivial, fun _ hwarning => (Import.snug_of_mem_warnings hwarning).notBlank,
      Import.listable_read _ _ _ _ _⟩

end Dissection

namespace Inspection

/-- The size up to which a file is read unless another limit is set. -/
def maxFileSize : Nat := 209715200

theorem limits_default : Settings.default.limits = {} := by
  rfl

/-! ## Bytes -/

/-- What holds of the analysis of bytes known under a path name. -/
structure Describes (path : String) (bytes : ByteArray) (a : Analysis) : Prop where
  parsed : a.parsed = ((Dissection.start path bytes).parse {}).accepted
  size : a.info.size = bytes.size
  arch : Quiet a.info.arch
  subsystem : Quiet a.info.subsystem
  md5 : Quiet a.info.md5
  sha256 : Quiet a.info.sha256
  warnings : ∀ warning ∈ a.imports.warnings, NotBlank warning
  listable : a.imports.Listable

/-- Under the default limits all bytes have an analysis. -/
theorem analyze_default (path : String) (bytes : ByteArray) :
    ∃ a, analyze {} path bytes = .ok a ∧ Describes path bytes a := by
  rw [analyze]
  simp only [Dissection.fault?_parse Import.Limits.whole_default]
  refine ⟨_, rfl, ?_⟩
  have hmd5 : Quiet (Digest.Md5.digest bytes) := Console.quiet_hex _
  have hsha256 : Quiet (Digest.Sha256.digest bytes) := Console.quiet_hex _
  split
  · next haccepted =>
    obtain ⟨hparsed, hwarnings, hlistable⟩ :=
      Dissection.dissection_parse Import.Limits.whole_default haccepted
    exact
      { parsed := hparsed.trans haccepted.symm
        size := rfl
        arch := Console.quiet_machineName _
        subsystem := Console.quiet_subsystemName _
        md5 := hmd5
        sha256 := hsha256
        warnings := hwarnings
        listable := hlistable }
  · next haccepted =>
    exact
      { parsed := (Bool.eq_false_of_not_eq_true haccepted).symm
        size := rfl
        arch := show Quiet "unknown" by decide
        subsystem := show Quiet "" by decide
        md5 := hmd5
        sha256 := hsha256
        warnings := fun warning hwarning => by cases hwarning
        listable := fun l hl => by cases hl }

/-- The header data of a file that is not too large can be told. -/
theorem Describes.told {path : String} {bytes : ByteArray} {a : Analysis}
    (h : Describes path bytes a) (hsize : bytes.size ≤ maxFileSize) :
    ToldInWording a.info where
  size := by
    rw [h.size, Int.natAbs_natCast]
    exact Nat.lt_of_le_of_lt hsize (by decide)
  arch := h.arch
  subsystem := h.subsystem
  md5 := h.md5
  sha256 := h.sha256

/-! ## Files -/

/-- The analysis of the file under a path name, none when no file is there or it is too
large. -/
def analysisAt? (files : Files) (path : String) : Option Analysis :=
  (files.read? path).bind fun bytes =>
    if bytes.size ≤ maxFileSize then
      (analyze {} (PathName.ofPlace (PathName.resolve files.home path)) bytes).toOption
    else none

/-- Whether the file under a path name is an image that is not too large. -/
def isImage (files : Files) (path : String) : Bool :=
  (files.read? path).any fun bytes =>
    let place := PathName.ofPlace (PathName.resolve files.home path)
    bytes.size ≤ maxFileSize && ((Dissection.start place bytes).parse {}).accepted

section

variable {files : Files} {path : String} {bytes : ByteArray}

/-- A file that is there is opened unless it is too large for the limit. -/
theorem load_of_fileSize {limit : Import.Limit} (hkind : limit.kind = .whole) {size : Nat}
    (h : files.fileSize (PathName.tidy path) = .ok size) :
    load files limit path =
      if (size : Int) ≤ limit.bound then
        (files.openFile (PathName.tidy path)).mapError .unreachable
      else .error (.tooLarge size limit) := by
  rw [load, h]
  simp only [Import.Limit.comparisonFault?, Import.Limit.exceededBy, hkind, decide_eq_true_eq]
  by_cases hsize : (size : Int) ≤ limit.bound
  · rw [if_neg (by omega), if_pos hsize]
  · rw [if_pos (by omega), if_neg hsize]

/-- A file that can be opened is loaded unless it is too large for the limit. -/
theorem load_of_openFile {limit : Import.Limit} (hkind : limit.kind = .whole)
    (h : files.openFile (PathName.tidy path) = .ok bytes) :
    load files limit path =
      if (bytes.size : Int) ≤ limit.bound then .ok bytes
      else .error (.tooLarge bytes.size limit) := by
  rw [load_of_fileSize hkind (Files.fileSize_of_openFile h), h]
  rfl

theorem load_default (h : files.read? path = some bytes) :
    load files (.ofInt maxFileSize) path =
      if bytes.size ≤ maxFileSize then .ok bytes
      else .error (.tooLarge bytes.size (.ofInt maxFileSize)) := by
  rw [load_of_openFile rfl (Files.openFile_tidy h)]
  simp only [Import.Limit.ofInt, Int.ofNat_le]

/-- What an examination of a readable file comes to. -/
theorem examine_default (h : files.read? path = some bytes) :
    (maxFileSize < bytes.size ∧ analysisAt? files path = none ∧ isImage files path = false
        ∧ examine .default files path =
          .error (.tooLarge bytes.size (.ofInt maxFileSize)))
      ∨ ∃ a findings, analysisAt? files path = some a ∧ isImage files path = a.parsed
        ∧ ToldInWording a.info ∧ a.imports.Listable
        ∧ examine .default files path = .ok (a, findings) := by
  have hlimit : Settings.default.limits.maxFileSize = .ofInt maxFileSize := rfl
  rw [examine, hlimit, load_default h, limits_default, analysisAt?, isImage, h]
  simp only [Option.bind_some, Option.any_some]
  by_cases hsize : bytes.size ≤ maxFileSize
  · obtain ⟨a, ha, hdescribes⟩ :=
      analyze_default (PathName.ofPlace (PathName.resolve files.home path)) bytes
    obtain ⟨findings, hfindings⟩ := Analysis.findings_ok hdescribes.warnings
    refine .inr ⟨a, findings, ?_, ?_, hdescribes.told hsize, hdescribes.listable, ?_⟩
    · rw [if_pos hsize, ha]
      rfl
    · rw [decide_eq_true hsize, Bool.true_and, hdescribes.parsed]
    · rw [if_pos hsize]
      simp only [bind, Except.bind, ha, hfindings]
  · refine .inl ⟨by omega, if_neg hsize, ?_, ?_⟩
    · rw [decide_eq_false hsize, Bool.false_and]
    · rw [if_neg hsize]
      rfl

/-! ## Scans -/

/-- What holds of the scan of a readable file. -/
structure Accounts (files : Files) (path : String) (scan : Scan) : Prop where
  target : scan.target = path
  duration : ∃ micros, scan.duration? = some (some micros)
  /-- The line about the scan is wording. -/
  summary : Quiet scan.summary
  success : scan.success = isImage files path
  /-- The analysis is kept, and the scan keeps none of a file that was not read. -/
  stored : Report.storedAnalysis scan = .ok (analysisAt? files path)
  told : ∀ a, analysisAt? files path = some a → ToldInWording a.info
  listable : ∀ a, analysisAt? files path = some a → a.imports.Listable

/-- The scan after an examination gives the analysis back. -/
theorem analysis_conclude (now : Instant) (scan : Scan) (a : Analysis) (findings : List Finding) :
    (conclude now scan (.ok (a, findings))).analysis = .ok (some a) := by
  show (Analysis.decode a.encode).map some = .ok (some a)
  rw [Analysis.decode_encode]
  rfl

theorem begin_ok (now : Instant) (hpath : path ≠ "") :
    Scan.begin now toolName path = .ok { toolName, target := path, started := now } := by
  have hlength : ¬ path.length < 1 := by
    have hpos := mt String.length_eq_zero_iff.1 hpath
    omega
  have htarget : Scan.nonEmpty (.text path) = .ok path := by
    show (if path.length < 1 then _ else _) = _
    rw [if_neg hlength]
    rfl
  have hfield : Schema.required [("tool_name", .text toolName),
      ("target", .text path)] "target"
      Scan.nonEmpty = .ok path := by
    show (Scan.nonEmpty (.text path)).within "target" = _
    rw [htarget]
    rfl
  rw [Scan.begin, Scan.ofFields, hfield]
  rfl

theorem quiet_tooLarge (size : Nat) :
    Quiet (Refusal.tooLarge size (.ofInt maxFileSize)).message := by
  have hlimit : Quiet (sizeLimitText (.ofInt maxFileSize)) := by
    rw [sizeLimitText]
    exact Console.quiet_grouped _
  show Quiet ("File too large: " ++ Decimal.grouped size ++ " bytes (max: "
    ++ sizeLimitText (.ofInt maxFileSize) ++ " bytes)")
  simp only [Console.quiet_append_iff]
  exact ⟨⟨⟨⟨by decide, Console.quiet_grouped _⟩, by decide⟩, hlimit⟩, by decide⟩

/-- The scan of a readable file accounts for it. -/
theorem scanFile_default (span : Span) (h : files.read? path = some bytes) :
    ∃ scan, scanFile .default files span path = .ok scan ∧ Accounts files path scan := by
  have hpath : path ≠ "" := by
    rintro rfl
    cases h
  rw [scanFile, begin_ok span.began hpath]
  refine ⟨_, rfl, ?_⟩
  rcases examine_default h with ⟨hsize, hnone, himage, hexamine⟩ |
    ⟨a, findings, hanalysis, himage, htold, hlistable, hexamine⟩
  · rw [hexamine]
    exact
      { target := rfl
        duration := ⟨span.elapsed, congrArg some span.since?_ended⟩
        summary := quiet_tooLarge _
        success := himage.symm
        stored := by
          rw [hnone]
          rfl
        told := by
          rw [hnone]
          intro a ha
          cases ha
        listable := by
          rw [hnone]
          intro a ha
          cases ha }
  · rw [hexamine]
    exact
      { target := rfl
        duration := ⟨span.elapsed, congrArg some span.since?_ended⟩
        summary := Console.quiet_summary htold.arch _
        success := himage.symm
        stored := by rw [hanalysis, Report.storedAnalysis, analysis_conclude]
        told := by
          rw [hanalysis]
          rintro found ⟨⟩
          exact htold
        listable := by
          rw [hanalysis]
          rintro found ⟨⟩
          exact hlistable }

end

/-! ## Batches -/

variable {files : Files} {paths : List String}

/-- If every job has a scan that stands in a relation to it, so do the scans of all of them. -/
theorem allScans_ok {α : Type} {jobs : List α} {run : α → Schema.Checked Scan}
    {R : α → Scan → Prop} (h : ∀ job ∈ jobs, ∃ scan, run job = .ok scan ∧ R job scan) :
    ∃ scans, allScans (jobs.map run) = .ok scans ∧ List.Forall₂ R jobs scans := by
  induction jobs with
  | nil => exact ⟨[], rfl, .nil⟩
  | cons job rest ih =>
    obtain ⟨scan, hscan, hrelated⟩ := h job List.mem_cons_self
    obtain ⟨scans, hscans, hall⟩ :=
      ih fun other hother => h other (List.mem_cons_of_mem job hother)
    refine ⟨scan :: scans, ?_, .cons hrelated hall⟩
    rw [List.map_cons, hscan, allScans, hscans]
    rfl

/-- What stands in a relation to each job, whatever its number, does so to each path name. -/
theorem forall₂_zipIdx_iff {β : Type} {R : String → β → Prop} {results : List β} :
    List.Forall₂ (fun job result => R job.1 result) paths.zipIdx results ↔
      List.Forall₂ R paths results := by
  rw [← List.forall₂_map_left_iff, List.zipIdx_map_fst]

/-- Under the default settings a batch is its files one by one. -/
theorem scanBatch_eq (files : Files) (clock : Nat → Span) (paths : List String) :
    scanBatch .default files clock paths =
      allScans (paths.zipIdx.map (scanJob .default files clock)) := by
  have hworkers : workers .default = .ok 4 := rfl
  have hcollect : Batch.collect (scanJob .default files clock) paths.zipIdx
      (Batch.inOrder paths) = some (paths.zipIdx.map (scanJob .default files clock)) :=
    Batch.collect_eq_map fun i hi => List.mem_range.2 (by rwa [List.length_zipIdx] at hi)
  rw [scanBatch, scanBatchBy, hworkers, hcollect]

/-- A batch of readable files gives one scan for each, in the order of the path names. -/
theorem scanBatch_default (clock : Nat → Span)
    (h : ∀ path ∈ paths, ∃ bytes, files.read? path = some bytes) :
    ∃ scans, scanBatch .default files clock paths = .ok scans
      ∧ List.Forall₂ (fun job scan => scanJob .default files clock job = .ok scan)
        paths.zipIdx scans
      ∧ List.Forall₂ (Accounts files) paths scans := by
  obtain ⟨scans, hscans, hboth⟩ :
      ∃ scans, allScans (paths.zipIdx.map (scanJob .default files clock)) = .ok scans
        ∧ List.Forall₂ (fun job scan => scanJob .default files clock job = .ok scan
          ∧ Accounts files job.1 scan) paths.zipIdx scans := by
    refine allScans_ok fun job hjob => ?_
    obtain ⟨bytes, hbytes⟩ := h job.1 (List.fst_mem_of_mem_zipIdx hjob)
    obtain ⟨scan, hscan, haccounts⟩ := scanFile_default (clock job.2) hbytes
    exact ⟨scan, hscan, hscan, haccounts⟩
  rw [scanBatch_eq]
  exact ⟨scans, hscans, hboth.imp fun _ _ h => h.1,
    forall₂_zipIdx_iff.1 (hboth.imp fun _ _ h => h.2)⟩

end Inspection

end ImageImports

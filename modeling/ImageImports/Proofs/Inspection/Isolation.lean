import ImageImports.Proofs.Batch
import ImageImports.Proofs.Inspection

/-!
# The files of a batch do not affect one another

A batch gives every file the scan that the file has alone, whatever the number of workers is set to
and in whatever order they finish.  The one thing that a scan cannot account for is an empty path
name: it is refused before the scan begins, so one among the path names leaves the batch without any
scan.

## Main results

* `scanBatchBy_of_finishes` — a batch on a pool comes out as its files do one by one, or fails on an
  empty path name.
-/

namespace ImageImports.Inspection

open Calendar (Span)
open Schema (Checked Fault)

/-- The scan as it would be at another time. -/
def retimed (scan : Scan) (span : Span) : Scan :=
  { scan with started := span.began, ended? := some span.ended }

/-- The refusal of an empty path name. -/
def emptyPath : List Fault := [{ kind := .textTooShort, path := ["target"] }]

/-- Whether a scan is the one that a file has alone, at any time. -/
def IsOwnScan (settings : Settings) (files : Files) (path : String) (scan : Scan) : Prop :=
  ∀ span, scanFile settings files span path = .ok (retimed scan span)

variable {settings : Settings} {files : Files}

theorem scanFile_empty (span : Span) : scanFile settings files span "" = .faults emptyPath := rfl

theorem conclude_retimed (span other : Span) (scan : Scan)
    (outcome : Except Refusal (Analysis × List Finding)) :
    conclude other.ended { scan with started := other.began } outcome =
      retimed (conclude span.ended scan outcome) other := by
  cases outcome <;> rfl

/-- Whatever is wrong with a file, it has a scan, and the time shows nowhere else in it. -/
theorem exists_own_scan (span : Span) {path : String} (hpath : path ≠ "") :
    ∃ scan, scanFile settings files span path = .ok scan ∧ IsOwnScan settings files path scan := by
  have hscan (span : Span) : scanFile settings files span path =
      .ok (conclude span.ended { toolName, target := path, started := span.began }
        (examine settings files path)) := by
    rw [scanFile, begin_ok span.began hpath]
    rfl
  refine ⟨_, hscan span, fun other => ?_⟩
  rw [hscan other, ← conclude_retimed span other]

/-- The first refusal among the scans is that of an empty path name. -/
theorem allScans_of_empty {run : String × Nat → Checked Scan}
    (hempty : ∀ index, run ("", index) = .faults emptyPath) {jobs : List (String × Nat)}
    (hmem : "" ∈ jobs.map (·.1))
    (hrest : ∀ job ∈ jobs, job.1 ≠ "" → ∃ scan, run job = .ok scan) :
    allScans (jobs.map run) = .error (.path emptyPath) := by
  induction jobs with
  | nil => cases hmem
  | cons job rest ih =>
    obtain ⟨path, index⟩ := job
    rw [List.map_cons] at hmem ⊢
    by_cases hpath : path = ""
    · rw [hpath, hempty, allScans]
    · obtain ⟨scan, hscan⟩ := hrest (path, index) List.mem_cons_self hpath
      have hrest := ih ((List.mem_cons.1 hmem).resolve_left fun h => hpath h.symm)
        fun other hother => hrest other (List.mem_cons_of_mem _ hother)
      rw [hscan, allScans, hrest]
      rfl

/-- With any whole number set as the number of workers, a batch has at least one worker and every
run of its pool ends; in whatever order the files get done, each of them then has the scan that it has
alone, in the order of the path names, unless one of the path names is empty: then there is no scan
at all. -/
theorem scanBatchBy_of_finishes {count : Int}
    (hcount : settings.general.get "max_workers" = .int count) (files : Files)
    (clock : Nat → Span) (paths : List String) :
    ∃ pool, workers settings = .ok pool
      ∧ WellFounded (fun q p => Batch.Pool.Step pool p q)
      ∧ ∀ finished, Batch.Pool.Finishes pool paths.length finished →
        ("" ∉ paths → ∃ scans, scanBatchBy finished settings files clock paths = .ok scans
            ∧ List.Forall₂ (IsOwnScan settings files) paths scans)
          ∧ ("" ∈ paths →
            (∀ span, scanFile settings files span "" = .faults emptyPath)
              ∧ scanBatchBy finished settings files clock paths = .error (.path emptyPath)) := by
  have hworkers : workers settings = .ok (max 1 count).toNat := by rw [workers, hcount]
  refine ⟨_, hworkers, Batch.Pool.wellFounded_step _, fun finished hfinished => ?_⟩
  have hbatch : scanBatchBy finished settings files clock paths =
      allScans (paths.zipIdx.map (scanJob settings files clock)) := by
    rw [← List.length_zipIdx] at hfinished
    rw [scanBatchBy, hworkers, Batch.collect_of_finishes (by omega) hfinished]
  have hscan (job : String × Nat) (hpath : job.1 ≠ "") :
      ∃ scan, scanJob settings files clock job = .ok scan ∧ IsOwnScan settings files job.1 scan :=
    exists_own_scan (clock job.2) hpath
  rw [hbatch]
  refine ⟨fun hnone => ?_, fun hmem => ⟨scanFile_empty, ?_⟩⟩
  · obtain ⟨scans, hscans, hown⟩ := allScans_ok fun job hjob =>
      hscan job fun hempty => hnone (hempty ▸ List.fst_mem_of_mem_zipIdx hjob)
    exact ⟨scans, hscans, forall₂_zipIdx_iff.1 hown⟩
  · refine allScans_of_empty (fun index => scanFile_empty (clock index)) ?_ fun job _ hpath => ?_
    · rwa [List.zipIdx_map_fst]
    · obtain ⟨scan, hjob, -⟩ := hscan job hpath
      exact ⟨scan, hjob⟩

/-- A pool with one worker can be done with the second of two jobs before it begins the first. -/
theorem finishes_second_first : Batch.Pool.Finishes 1 2 [1, 0] := by
  let second : Batch.Pool := ⟨[0], [], [1]⟩
  let first : Batch.Pool := ⟨[], [0], [1]⟩
  have hpass : Batch.Pool.Step 1 (.start 2) second := @Batch.Pool.Step.pass 1 [0] [] [] [] 1
  have htake : Batch.Pool.Step 1 second first := .take (by decide)
  have hfinish : Batch.Pool.Step 1 first ⟨[], [], [1, 0]⟩ :=
    @Batch.Pool.Step.finish 1 [] [] [] [1] 0
  refine ⟨_, .tail (.tail (.single hpass) htake) hfinish, fun q hq => ?_, rfl⟩
  have := hq.stepsLeft_lt
  simp [Batch.Pool.stepsLeft] at this

/-- Two files that are not there, and one of them next to an empty path name. -/
theorem scanBatchBy_sample :
    let settings : Settings := ⟨[("max_workers", .int (-2))], Settings.defaultImports⟩
    settings.general.get "max_workers" = .int (-2)
      ∧ (∃ scans, scanBatchBy [1, 0] settings ⟨[], []⟩ default ["a.exe", "b.exe"] = .ok scans
        ∧ List.Forall₂ (IsOwnScan settings ⟨[], []⟩) ["a.exe", "b.exe"] scans)
      ∧ scanBatchBy [1, 0] settings ⟨[], []⟩ default ["a.exe", ""] = .error (.path emptyPath) := by
  intro settings
  have hcount : settings.general.get "max_workers" = .int (-2) := rfl
  obtain ⟨pool, hpool, -, hfiles⟩ :=
    scanBatchBy_of_finishes hcount ⟨[], []⟩ default ["a.exe", "b.exe"]
  obtain ⟨pool', hpool', -, hempty⟩ :=
    scanBatchBy_of_finishes hcount ⟨[], []⟩ default ["a.exe", ""]
  have hone : workers settings = .ok 1 := rfl
  obtain rfl : 1 = pool := Except.ok.inj (hone.symm.trans hpool)
  obtain rfl : 1 = pool' := Except.ok.inj (hone.symm.trans hpool')
  exact ⟨hcount, (hfiles [1, 0] finishes_second_first).1 (by decide),
    ((hempty [1, 0] finishes_second_first).2 (by decide)).2⟩

end ImageImports.Inspection

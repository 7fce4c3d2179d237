import ImageImports.Batch
import ImageImports.Files
import ImageImports.Scan
import ImageImports.Settings
import ImageImports.Decimal.Fixed
import ImageImports.Digest.Md5
import ImageImports.Digest.Sha256
import ImageImports.Image.Diagnosis
import ImageImports.Image.Dissection

/-!
# Inspecting files

An inspection turns bytes into an analysis, a file into a scan, and a list of path names into one
scan each.  Whatever is wrong with a file ends up in its scan; only a setting that cannot be used at
all, or an empty path name, stops a batch.
-/

namespace ImageImports.Inspection

open Calendar (Instant Span)
open Schema (Checked Fault)

/-- The name that scans carry as that of their tool. -/
def toolName : String := "pescope"

/-! ## Bytes -/

/-- The analysis of bytes known under a path name.  What is no image has an empty analysis, but the
name, the size and the digests are there in any case. -/
def analyze (limits : Import.Limits) (path : String) (bytes : ByteArray) :
    Except Import.SettingFault Analysis :=
  let outcome := (Dissection.start path bytes).parse limits
  match outcome.fault? with
  | some fault => .error fault
  | none =>
    let analysis : Analysis := if outcome.accepted then outcome.dissection.analysis else {}
    .ok { analysis with
      info := { analysis.info with
        path
        size := bytes.size
        md5 := Digest.Md5.digest bytes
        sha256 := Digest.Sha256.digest bytes } }

/-! ## Files -/

/-- A number with its whole part in groups of three digits. -/
def groupedReal (x : Float) : String :=
  let text := (Decimal.shortest x).toList
  let (sign, text) := if text.head? = some '-' then (['-'], text.drop 1) else ([], text)
  String.ofList
    (sign ++ Decimal.groupThousands (text.takeWhile Char.isDigit) ++ text.dropWhile Char.isDigit)

/-- A limit on sizes as messages write it. -/
def sizeLimitText (limit : Import.Limit) : String :=
  match limit.kind with
  | .real x => groupedReal x
  | _ => Decimal.grouped limit.bound

/-- What a scan says that came to nothing. -/
inductive Refusal where
  | notFound (path : String)
  /-- The path name cannot be followed, or its file cannot be opened. -/
  | unreachable (fault : Files.OpenFault)
  | tooLarge (size : Nat) (limit : Import.Limit)
  | failed (fault : Import.SettingFault)
  | unacceptable (fs : List Fault)

/-- How a refusal is told. -/
def Refusal.message : Refusal → String
  | notFound path => s!"File not found: {path}"
  | unreachable fault => s!"Analysis failed: {fault.message}"
  | tooLarge size limit =>
    s!"File too large: {Decimal.grouped size} bytes (max: {sizeLimitText limit} bytes)"
  | failed fault => s!"Analysis failed: {fault.message}"
  | unacceptable fs => s!"Analysis failed: {fs.length} validation errors"

/-- The bytes of a file that is there and not too large. -/
def load (files : Files) (limit : Import.Limit) (path : String) : Except Refusal ByteArray :=
  match files.fileSize (PathName.tidy path) with
  | .error (.way .tooLong path) => .error (.unreachable (.way .tooLong path))
  | .error _ => .error (.notFound path)
  | .ok size =>
    match limit.comparisonFault? ">" with
    | some fault => .error (.failed fault)
    | none =>
      if limit.exceededBy size then .error (.tooLarge size limit)
      else (files.openFile (PathName.tidy path)).mapError .unreachable

/-- The analysis of a file and what is found. -/
def examine (settings : Settings) (files : Files) (path : String) :
    Except Refusal (Analysis × List Finding) := do
  let bytes ← load files settings.limits.maxFileSize path
  let place := PathName.ofPlace (PathName.resolve files.home path)
  match analyze settings.limits place bytes with
  | .error fault => .error (.failed fault)
  | .ok analysis => match analysis.findings with
    | .ok findings => .ok (analysis, findings)
    | .faults fs => .error (.unacceptable fs)

/-- The scan after an examination. -/
def conclude (now : Instant) (scan : Scan) : Except Refusal (Analysis × List Finding) → Scan
  | .error refusal => { scan with success := false }.finalize now (some refusal.message)
  | .ok (analysis, findings) =>
    { scan with
      findings
      metadata := [(Analysis.storedName, analysis.encode)]
      success := analysis.parsed }.finalize now (some (analysis.summary findings.length))

/-- The scan of one file, with what the clock shows around it. -/
def scanFile (settings : Settings) (files : Files) (span : Span) (path : String) : Checked Scan :=
  (Scan.begin span.began toolName path).map fun scan =>
    conclude span.ended scan (examine settings files path)

/-! ## Batches -/

/-- Why a batch was not run. -/
inductive BatchFault where
  /-- The number of workers is no number. -/
  | workers (word : String)
  /-- A path name was refused. -/
  | path (fs : List Fault)

/-- How a batch fault is told. -/
def BatchFault.message : BatchFault → String
  | workers word => s!"'>' not supported between instances of '{word}' and 'int'"
  | path fs => s!"{fs.length} validation error for ScanResult"

/-- The number of workers; at least one, whatever the setting says. -/
def workers (settings : Settings) : Except BatchFault Nat :=
  match settings.general.get "max_workers" with
  | .int n => .ok (max 1 n).toNat
  | .bool _ => .ok 1
  | .real x => .ok (max 1 (Settings.ceiling x)).toNat
  | other => .error (.workers other.kindWord)

/-- The scans, or the first refusal among them. -/
def allScans : List (Checked Scan) → Except BatchFault (List Scan)
  | [] => .ok []
  | .ok scan :: rest => (allScans rest).map (scan :: ·)
  | .faults fs :: _ => .error (.path fs)

/-- The scan of a file of a batch; `clock` shows what it shows around the file of each number. -/
def scanJob (settings : Settings) (files : Files) (clock : Nat → Span) (job : String × Nat) :
    Checked Scan :=
  scanFile settings files (clock job.2) job.1

/-- One scan per path name, in the order of the path names, when the files finish in the order in
which `finished` names them. -/
def scanBatchBy (finished : List Nat) (settings : Settings) (files : Files) (clock : Nat → Span)
    (paths : List String) : Except BatchFault (List Scan) :=
  match workers settings with
  | .error fault => .error fault
  | .ok _ =>
    match Batch.collect (scanJob settings files clock) paths.zipIdx finished with
    | some scans => allScans scans
    | none => .ok []

/-- One scan per path name, in the order of the path names. -/
def scanBatch (settings : Settings) (files : Files) (clock : Nat → Span) (paths : List String) :
    Except BatchFault (List Scan) :=
  scanBatchBy (Batch.inOrder paths) settings files clock paths

end ImageImports.Inspection

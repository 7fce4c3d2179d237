import ImageImports.Scan
import ImageImports.Json.Printer

/-!
# Reports as records

A report lists one record per scan, with the analysis in full: what a reader can work out from other
fields, such as labels and counts, is given along with them.
-/

namespace ImageImports.Report

open Schema (Fault)

/-- Why a scan cannot be reported. -/
inductive Refusal where
  /-- The clocks of its beginning and its end cannot be compared. -/
  | clocks
  /-- The stored analysis is not acceptable. -/
  | stored (fs : List Fault)
  /-- A symbol cannot be listed. -/
  | unwritable

/-- The stored analysis of a scan. -/
def storedAnalysis (scan : Scan) : Except Refusal (Option Analysis) :=
  match scan.analysis with
  | .ok analysis? => .ok analysis?
  | .faults fs => .error (.stored fs)

/-- Microseconds as a number of seconds. -/
def secondsOf (micros : Int) : Float := Decimal.realOf (micros < 0) micros.natAbs (-6)

/-- How long a scan took, nothing while it has not ended. -/
def durationRecord (scan : Scan) : Except Refusal Json :=
  match scan.duration? with
  | none => .ok .null
  | some (some micros) => .ok (.real (secondsOf micros))
  | some none => .error .clocks

/-- A symbol with what it is listed as, if it can be listed. -/
def entryRecord? (e : Import.Entry) : Option Json :=
  e.label?.map fun label => .object (e.encodeFields ++ [("label", .text label)])

/-- A library with its symbols. -/
def libraryRecord? (l : Import.Library) : Option Json := do
  let labels ← l.labels?
  let entries ← l.entries.mapM entryRecord?
  return .object (l.descriptor.encodeFields ++
    [("functions", .ofTexts labels), ("entries", .list entries)])

/-- A table of imports with its counts. -/
def importsRecord? (t : Import.Table) : Option Json := do
  let libraries ← t.libraries.mapM libraryRecord?
  return .object
    [("status", .text t.status), ("bits", .int t.bits),
      ("directory_present", .bool t.directoryPresent), ("error", Import.Failure.encode? t.error),
      ("warnings", .ofTexts t.warnings), ("library_count", .int t.libraries.length),
      ("entry_count", .int t.entryCount), ("libraries", .list libraries)]

/-- An analysis, if all its symbols can be listed. -/
def imageRecord? (a : Analysis) : Option Json := do
  let imports ← importsRecord? a.imports
  return .object
    [("info", .object
        (a.info.encodeFields ++ [("compiled_at", .ofText? (a.info.linkedAt?.map (·.isoText)))])),
      ("parsed", .bool a.parsed),
      ("sections", .list (a.sections.map fun s =>
        .object (s.encodeFields ++ [("flags", .text s.flags)]))),
      ("data_directories", .list (a.directories.map DataDirectory.encode)),
      ("imports", imports)]

/-- The field for the analysis that a scan keeps, if it keeps one. -/
def imageField : Option Analysis → Except Refusal (List (String × Json))
  | none => .ok []
  | some analysis => match imageRecord? analysis with
    | some image => .ok [("image", image)]
    | none => .error .unwritable

/-- How many findings there are of each severity. -/
def countsRecord (scan : Scan) : Json :=
  .object (scan.severityCounts.map fun (severity, n) => (severity.word, .int n))

/-- One scan. -/
def scanRecord (scan : Scan) : Except Refusal Json := do
  let duration ← durationRecord scan
  let analysis? ← storedAnalysis scan
  let image ← imageField analysis?
  return .object
    ([("target", .text scan.target), ("success", .bool scan.success), ("summary", .text scan.summary),
      ("duration_seconds", duration),
      ("highest_severity", .ofText? (scan.highestSeverity?.map (·.word))),
      ("severity_counts", countsRecord scan),
      ("findings", .list (scan.findings.map Finding.encode))]
      ++ image)

/-- What a report of this kind calls itself. -/
def reportType : String := "pescope_import_analysis"

/-- The report of some scans, made by a given version at a given time. -/
def record (version : Json) (generatedAt : String) (scans : List Scan) : Except Refusal Json := do
  let files ← scans.mapM scanRecord
  return .object
    [("report_type", .text reportType), ("version", version), ("generated_at", .text generatedAt),
      ("files", .list files)]

end ImageImports.Report

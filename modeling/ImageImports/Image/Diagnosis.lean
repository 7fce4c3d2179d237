import ImageImports.Image.Stored
import ImageImports.Finding

/-!
# What an analysis amounts to

Findings and a one-line summary, drawn from an analysis alone: a file that is no image, an image
without imports, an import directory that could not be read to its end, and every anomaly that was
met on the way.
-/

namespace ImageImports.Analysis

open Schema (Checked)

/-- The documentation that findings refer to. -/
def references : List String :=
  ["Microsoft. (2024). PE Format -- The .idata Section. Microsoft Learn."]

/-- What to do about an import directory whose reading ended early. -/
def advice : Import.FailureKind → String
  | .headerUnavailable => "The optional header is missing or damaged, so thunk width is unknown."
  | .directoryUnreachable =>
    "The import directory RVA points outside every section; the image may be packed or its section "
      ++ "table tampered with."
  | .tableTooLarge =>
    "A table did not terminate within its section or exceeded the configured limits; this is typical "
      ++ "of deliberately malformed files."
  | .possibleLoop =>
    "A lookup table points back into the descriptor array; this is typical of deliberately malformed "
      ++ "files."
  | _ => "Inspect the import directory manually; recovered data is partial."

/-- The finding that a file is no image. -/
def notAnImage (info : ImageInfo) : Finding where
  severity := .high
  title := "Not a PE image"
  description :=
    "The file lacks a valid MZ header, PE signature or COFF header and was not analysed."
  evidence := (Json.object [("size", .int info.size), ("sha256", .text info.sha256)]).compact
  recommendation := "Confirm the file type before further analysis."
  references := references

/-- The finding that an image declares no imports. -/
def noImports : Finding where
  severity := .info
  title := "Image has no import directory"
  description :=
    "The import data directory is absent or zero.  Images without imports usually resolve APIs at "
      ++ "run time."
  references := references

/-- The finding that the reading of a table ended early. -/
def abortedImports (table : Import.Table) (error : Import.Failure) : Finding where
  severity := .medium
  title := "Import table parsing aborted"
  description :=
    s!"Import parsing stopped ({error.kind.word}): {error.message} {table.libraries.length} "
      ++ s!"libraries and {table.entryCount} imports were recovered."
  evidence := (Json.object
    [("kind", .text error.kind.word), ("offset", .ofInt? error.offset),
      ("library", .text error.library), ("libraries_recovered", .int table.libraries.length),
      ("imports_recovered", .int table.entryCount)]).compact
  recommendation := advice error.kind
  references := references

/-- The finding that a warning is. -/
def anomaly (warning : String) : Finding where
  severity := .low
  title := "Import table anomaly"
  description := warning
  references := references

/-- What is found, before the texts are checked. -/
def drafts (a : Analysis) : List Finding :=
  if a.parsed then
    (if a.imports.directoryPresent then [] else [noImports])
      ++ (a.imports.error.map (abortedImports a.imports)).toList
      ++ a.imports.warnings.map anomaly
  else [notAnImage a.info]

/-- Checks findings up to the first one that is refused. -/
def checkAll : List Finding → Checked (List Finding)
  | [] => .ok []
  | f :: rest => f.check.bind fun f => (checkAll rest).map (f :: ·)

/-- The findings about an analysis.  Only a stored analysis can hold a warning that is refused as a
description. -/
def findings (a : Analysis) : Checked (List Finding) := checkAll a.drafts

/-- The word for the image format. -/
def formatWord (bits : Int) : String :=
  if bits = 32 then "PE32" else if bits = 64 then "PE32+" else "PE"

/-- How the reading of the imports ended, as the summary tells it. -/
def importOutcome (table : Import.Table) : String :=
  match table.error with
  | none => "ok"
  | some e => s!"aborted ({e.kind.word})"

/-- One line about an analysis with `count` findings. -/
def summary (a : Analysis) (count : Nat) : String :=
  if a.parsed then
    " | ".intercalate
      [s!"Analysis complete: {formatWord a.info.bits}", s!"{a.info.arch} {a.info.bits}-bit",
        s!"Sections: {a.sections.length}", s!"Libraries: {a.imports.libraries.length}",
        s!"Imports: {a.imports.entryCount}", s!"Import parse: {importOutcome a.imports}",
        s!"Findings: {count}"]
  else s!"Not a PE image | Findings: {count}"

end ImageImports.Analysis

import ImageImports.Report.Block
import ImageImports.Report.Record

/-!
# Reports as text

A text report is for reading on a plain screen and for comparing: a banner with the name of each
file, then blocks of keys and values.
-/

namespace ImageImports.Report

/-- The line above and below the name of a file. -/
def banner : String := "".pushn '-' 79

/-- What the header data says. -/
def summaryItems (i : ImageInfo) : List (String × ItemValue) :=
  [("Size", .one s!"{i.size} bytes"), ("MD5", .one i.md5), ("SHA256", .one i.sha256),
    ("Architecture", .one i.arch)]
    ++ (if i.bits = 0 then [] else
      [("Format", .one i.formatName), ("Subsystem", .one i.subsystem),
        ("DLL", .one (if i.isDll then "yes" else "no")),
        ("Image base", .one (Bytes.hexNumber i.imageBase)),
        ("Entry point", .one (Bytes.hexNumber i.entryPoint))])
    ++ i.linkedAt?.toList.map fun second => ("Compilation date", .one (second.text ++ " UTC"))

/-- A section on one line. -/
def sectionItem (s : Section) : String × ItemValue :=
  (s.displayName, .one
    s!"VA {Bytes.hexNumber s.virtualAddress}  VSize {Bytes.hexNumber s.virtualSize}  Raw {Bytes.hexNumber s.rawOffset}+{Bytes.hexNumber s.rawSize}  {s.flags}")

/-- How the reading of the imports went. -/
def statusItems (t : Import.Table) : List (String × ItemValue) :=
  [("Status", .one t.status)] ++ t.error.toList.map (fun e => ("Error", .one e.message))
    ++ [("Warnings", .many t.warnings)]

/-- A library with the labels of its symbols. -/
def libraryItem (l : Import.Library) : String × ItemValue := (l.name, .many (l.entries.map (·.label)))

/-- The blocks about an analysed image. -/
def imageLines (a : Analysis) : List String :=
  blockLines "Summary" (summaryItems a.info)
    ++ (if a.sections.isEmpty then [] else blockLines "Sections" (a.sections.map sectionItem))
    ++ blockLines "Import parsing" (statusItems a.imports)
    ++ (if a.imports.libraries.isEmpty then []
        else blockLines "Imports" (a.imports.libraries.map libraryItem))

/-- The block about a file that could not be analysed. -/
def failureLines (scan : Scan) : List String :=
  blockLines "Summary" [("Status", .one "failed"), ("Message", .one scan.summary)]

/-- The lines about one scan. -/
def scanLines (scan : Scan) : Except Refusal (List String) := do
  let body := match ← storedAnalysis scan with
    | some analysis => if analysis.parsed then imageLines analysis else failureLines scan
    | none => failureLines scan
  return [banner, scan.target, banner, ""] ++ body

/-- The report of some scans, every line ended by a line feed. -/
def text (scans : List Scan) : Except Refusal String := do
  let lines := (← scans.mapM scanLines).flatten
  return String.join (lines.map (· ++ "\n"))

end ImageImports.Report

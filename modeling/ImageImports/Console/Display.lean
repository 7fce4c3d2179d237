import ImageImports.Console.Screen
import ImageImports.Console.Tree
import ImageImports.Decimal.Fixed
import ImageImports.Image
import ImageImports.Text.Quoted

/-!
# Showing an analysis

The prints that show an analysis: a panel with the header data, the table of sections, the libraries
and their symbols as a tree, how the reading of the imports went, and what queries find.
-/

namespace ImageImports.Console

/-! ## Header data -/

/-- A number of bytes in units of 1024 with one place. -/
def kibibytes (size : Int) : Except Fault String :=
  match Decimal.nearest? size 10 with
  | some quotient => .ok (quotient.fixed 1)
  | none => .error .sizeTooLarge

/-- The line of a panel with a label in front. -/
def labelled (label value : String) : String :=
  "[bold]" ++ label ++ ":[/bold]" ++ "".pushn ' ' (13 - label.length) ++ value

/-- The header data in markup, one line each. -/
def headerText (i : ImageInfo) : Except Fault String :=
  (kibibytes i.size).map fun kibibytes => "\n".intercalate <|
    [labelled "File" (Markup.escape i.path),
      labelled "Size" s!"{Decimal.grouped i.size} bytes ({kibibytes} KiB)"]
    ++ (if i.bits = 0 then [] else
      [labelled "Format" i.formatName, labelled "Arch" s!"{i.arch} ({i.bits}-bit)",
        labelled "Subsystem" (i.subsystem ++ if i.isDll then " (DLL)" else ""),
        labelled "Image Base" (Bytes.hexNumber i.imageBase),
        labelled "Entry Point" (Bytes.hexNumber i.entryPoint)])
    ++ i.linkedAt?.toList.map (fun second => labelled "Compiled" (second.text ++ " UTC"))
    ++ (if i.md5.isEmpty then [] else [labelled "MD5" i.md5])
    ++ (if i.sha256.isEmpty then [] else [labelled "SHA-256" i.sha256])

/-- The header data in a panel. -/
def header (n : Nat) (i : ImageInfo) : List Print :=
  [((headerText i).bind fun text => Markup.plain text).map fun text => onScreen n
      (Panel.lines { title := "Image Information".toList, rows := 1, columns := 2, text } n),
    blank]

/-! ## Sections -/

/-- The table of sections.  Their names are taken as markup. -/
def sectionTable (sections : List Section) : Table where
  columns :=
    [{ header := "#", align := .right, fixed? := some 4 }, { header := "Name", least := 10 },
      { header := "VAddr", align := .right }, { header := "VSize", align := .right },
      { header := "Offset", align := .right }, { header := "Raw Size", align := .right },
      { header := "Flags" }]
  rows := sections.zipIdx.map fun (s, i) =>
    [toString (i + 1), s.displayName, Bytes.hexNumber s.virtualAddress,
      Bytes.hexNumber s.virtualSize, Bytes.hexNumber s.rawOffset, Bytes.hexNumber s.rawSize,
      s.flags]

/-- The sections under their head. -/
def sectionList (n : Nat) (sections : List Section) : List Print :=
  sectionHead n "Sections" ++ [tablePrint n (sectionTable sections), blank]

/-! ## Imports -/

/-- The most symbols of one library that are shown. -/
def maxShown : Nat := 200

/-- A symbol in markup. -/
def entryLabel (e : Import.Entry) : String :=
  if e.isOrdinal then s!"[yellow]{e.label}[/yellow]"
  else
    let hint := match e.hint with
      | some hint => toString hint
      | none => "None"
    s!"{Markup.escape e.name} [dim]hint {hint}[/dim]"

/-- A library with its symbols; how many are left out is told at the end. -/
def libraryTree (l : Import.Library) : Tree :=
  let hidden := l.entries.length - maxShown
  .node s!"[bold]{Markup.escape l.name}[/bold] [dim]({l.entries.length})[/dim]" <|
    (l.entries.take maxShown).map (fun e => .node (entryLabel e) [])
      ++ if hidden = 0 then [] else [.node s!"[dim]... {hidden} more[/dim]" []]

/-- All libraries. -/
def importTree (t : Import.Table) : Tree :=
  .node "[bold bright_cyan]Import Directory[/bold bright_cyan]" (t.libraries.map libraryTree)

/-- The imports under their head. -/
def imports (n : Nat) (t : Import.Table) : List Print :=
  sectionHead n "Imports" ++
    if t.directoryPresent then
      [paragraph n s!"Libraries: {t.libraries.length}  Imports: {t.entryCount}", blank,
        onScreen n <$> (importTree t).lines n, blank]
    else [message n .info "Image has no import directory.", blank]

/-- How the reading of the imports went. -/
def importStatus (n : Nat) (t : Import.Table) : List Print :=
  let outcome := match t.error with
    | none => message n .success "Import directory parsed completely."
    | some e =>
      let place := match e.offset with
        | some offset => " at " ++ Bytes.hexNumber offset
        | none => ""
      message n .error
        s!"Import parsing aborted ({e.kind.word}){place}: {Markup.escape e.message}"
  outcome :: t.warnings.map (fun w => message n .warning (Markup.escape w)) ++ [blank]

/-! ## Whole analyses -/

/-- An analysis with the findings about it. -/
def analysis (n : Nat) (a : Analysis) (findings : List Finding) : List Print :=
  sectionHead n "Image Analysis Results" ++ header n a.info
    ++ (if a.parsed then
        (if a.sections.isEmpty then [] else sectionList n a.sections)
          ++ imports n a.imports ++ importStatus n a.imports
      else [message n .error (Markup.escape a.info.path ++ " is not a PE image.")])
    ++ (if findings.isEmpty then [] else [tablePrint n (findingsTable findings), blank])
    ++ [rule n]

/-! ## Queries -/

/-- What is said of a library without symbols. -/
def absentText (library : String) : String :=
  "No library named " ++ Text.quoted library ++ " is imported."

/-- The symbols of one library. -/
def functions (n : Nat) (library : String) (names : List String) : List Print :=
  sectionHead n ("Functions imported from " ++ library) ++
    [if names.isEmpty then message n .warning (absentText library)
      else tablePrint n <| textTable "" ["#", "Function"] <|
        names.zipIdx.map fun (name, i) => [toString (i + 1), name],
      blank]

/-- The symbols that a search found, library by library. -/
def searchHits (n : Nat) (pattern : String) (hits : List (String × List String)) : List Print :=
  let rows := hits.flatMap fun (library, names) => names.map fun name => [library, name]
  sectionHead n ("Search: " ++ pattern) ++
    [if hits.isEmpty then message n .info "No imported symbol matches."
      else tablePrint n <|
        textTable "" ["Library", "Function"] rows (toString rows.length ++ " match(es)"),
      blank]

end ImageImports.Console

import ImageImports.Command.Request
import ImageImports.Console.Display
import ImageImports.Files.Saving
import ImageImports.Inspection
import ImageImports.Json.Display
import ImageImports.Log.Journal
import ImageImports.Report.Text
import ImageImports.Settings.File
import ImageImports.Toml.Record

/-!
# Running the command

A run reads the settings, scans the files, shows what it found on the screen or as a record, and
stores a report if one is asked for.  It ends with a status: zero when every file is an image, one
when some file is not or the run could not be carried out, two when the command line is at fault.
Some faults stop a run on the way; what was shown before stays on the screen.
-/

namespace ImageImports.Command

open Console (Print)

/-- What can stop a run on the way. -/
inductive Stop where
  /-- The pattern of a search is beyond what patterns can say. -/
  | pattern (fault : Pattern.PatternFault)
  | zeroInPath
  /-- The threshold of the log is no text. -/
  | thresholdKind
  | threshold (fault : Log.ThresholdFault)
  /-- The name of the log file is no text. -/
  | logFileKind
  /-- A print cannot be laid out. -/
  | screen (fault : Console.Fault)
  | save (fault : Files.SaveFault)
  | report (fault : Report.Refusal)
  /-- A symbol cannot be listed. -/
  | unwritable

/-- How a run ends. -/
inductive Ending where
  | status (code : Nat)
  | stopped (stop : Stop)

/-- What a run leaves: the text on the screen, the files, and its end. -/
structure Outcome where
  screen : String := ""
  files : Files
  ending : Ending

/-- Where a run takes place. -/
structure Environment where
  files : Files
  /-- The cells of a line on the screen. -/
  width : Nat
  /-- What the clock shows around the scan of each file, by its number. -/
  clock : Nat → Calendar.Span
  /-- The time as reports give it. -/
  timeText : String

/-! ## Settings and the log -/

/-- The settings that a request asks for. -/
def settingsOf (files : Files) (r : Request) : Except Settings.LoadFault Settings :=
  match r.config? with
  | some path => Settings.load files path
  | none => .ok .default

/-- The word for the threshold of the log. -/
def thresholdWord (settings : Settings) (verbose : Bool) : Except Stop String :=
  if verbose || (settings.general.get "debug").isTruthy then .ok "DEBUG"
  else match settings.general.get "log_level" with
    | .text word => .ok word
    | _ => .error .thresholdKind

/-- The files with a log file opened; a fault of its own place is told with its whole path name. -/
def openFile (files : Files) (path : String) : Except Files.SaveFault Files :=
  let whole := PathName.ofPlace (PathName.resolve files.home path)
  match files.save path ((files.read? path).getD .empty) with
  | .ok (files, _) => .ok files
  | .error (.isDirectory _) => .error (.isDirectory whole)
  | .error (.denied _) => .error (.denied whole)
  | .error (.tooLong p) => .error (.tooLong (if p = PathName.tidy path then whole else p))
  | .error fault => .error fault

/-- The files once the log file has been opened, if there is to be one. -/
def openLog (files : Files) (settings : Settings) (verbose : Bool) : Except Stop Files := do
  let word ← thresholdWord settings verbose
  match Log.threshold word with
  | .error fault => throw (.threshold fault)
  | .ok _ =>
    let name := settings.general.get "log_file"
    if !name.isTruthy then return files
    match name with
    | .text path =>
      match openFile files path with
      | .ok files => return files
      | .error fault => throw (.save fault)
    | _ => throw .logFileKind

/-! ## What is shown -/

/-- A real number of seconds with two places. -/
def secondsText (x : Float) : String :=
  match Decimal.classify x with
  | .finite b => b.fixed 2
  | _ => Decimal.shortest x

/-- How long a scan took. -/
def durationPrints (n : Nat) (scan : Scan) : List Print :=
  match scan.duration? with
  | some (some micros) =>
    [Console.message n .info s!"Scan Duration: {secondsText (Report.secondsOf micros)}s"]
  | _ => []

/-- What is listed of the library that a request asks for. -/
def listedPrints (n : Nat) (r : Request) (t : Import.Table) : Except Stop (List Print) :=
  match r.library? with
  | none => .ok []
  | some name =>
    match t.functionsOf? name with
    | some names => .ok (Console.functions n name names)
    | none => .error .unwritable

/-- The answers to the queries of a request. -/
def queryPrints (n : Nat) (settings : Settings) (r : Request) (t : Import.Table) :
    Except Stop (List Print) := do
  let listed ← listedPrints n r t
  match r.search? with
  | none => return listed
  | some pattern =>
    let caseSensitive := !r.ignoreCase && settings.caseSensitive
    match t.searchByLibrary pattern r.libraryPattern caseSensitive with
    | .ok hits => return listed ++ Console.searchHits n pattern hits
    | .error fault => throw (.pattern fault)

/-- What a scan says in one line. -/
def summaryText (scan : Scan) : String :=
  Console.Markup.escape scan.target ++ ": " ++ Console.Markup.escape scan.summary

/-- All that is shown of a scan. -/
def scanPrints (n : Nat) (settings : Settings) (r : Request) (scan : Scan) :
    Except Stop (List Print) := do
  match Report.storedAnalysis scan with
  | .error fault => throw (.report fault)
  | .ok none => return [Console.message n .error (summaryText scan)]
  | .ok (some analysis) =>
    let answers ← queryPrints n settings r analysis.imports
    return Console.analysis n analysis scan.findings ++ answers
      ++ [Console.message n .info (summaryText scan)] ++ durationPrints n scan ++ [Console.blank]

/-- All that is shown of some scans. -/
def prints (n : Nat) (settings : Settings) (r : Request) (scans : List Scan) :
    Except Stop (List Print) := do
  let shown ← scans.mapM (scanPrints n settings r)
  return Console.banner n (settings.general.get "version").toJson.shown :: shown.flatten

/-- The text of prints on the screen, and what stopped them. -/
def onScreen (prints : List Print) : String × Option Stop :=
  let shown := Console.shown prints
  (String.join (shown.lines.map (· ++ "\n")), shown.fault.map .screen)

/-! ## Reports -/

/-- The report of some scans as the text of a record. -/
def jsonReport (env : Environment) (settings : Settings) (scans : List Scan) : Except Stop String :=
  let version := (settings.general.get "version").toJson
  match Report.record version env.timeText scans with
  | .ok record => .ok record.pretty
  | .error fault => .error (.report fault)

/-- The report of some scans as text. -/
def textReport (scans : List Scan) : Except Stop String :=
  match Report.text scans with
  | .ok text => .ok text
  | .error fault => .error (.report fault)

/-- Whether a report stored under a path name is a record. -/
def isJsonPath (path : String) : Bool := (PathName.suffix path).toLower = ".json"

/-- The files with the report that a request asks for, and what is said about it. -/
def store (env : Environment) (settings : Settings) (r : Request) (scans : List Scan) (files : Files) :
    Except Stop (Files × List Print) := do
  match r.output? with
  | none => return (files, [])
  | some path =>
    let (kind, text) ← if isJsonPath path then do
        pure ("JSON", ← jsonReport env settings scans)
      else do pure ("Text", ← textReport scans)
    match files.save path text.toUTF8 with
    | .error fault => throw (.save fault)
    | .ok (files, stored) =>
      let saved := s!"{kind} report saved: {PathName.ofPlace stored}"
      return (files, if r.json then [] else [Console.message env.width .success saved])

/-- The status of a run that scanned its files. -/
def exitStatus (scans : List Scan) : Nat := if scans.all (·.success) then 0 else 1

/-! ## Runs -/

/-- Shows prints and goes on, unless one of them is faulty. -/
def showThen (screen : String) (files : Files) (prints : List Print)
    (next : String → Outcome) : Outcome :=
  match onScreen prints with
  | (text, none) => next (screen ++ text)
  | (text, some stop) => ⟨screen ++ text, files, .stopped stop⟩

/-- What follows the scans of a run. -/
def present (env : Environment) (settings : Settings) (r : Request) (files : Files)
    (scans : List Scan) : Outcome :=
  let finish (screen : String) : Outcome :=
    match store env settings r scans files with
    | .error stop => ⟨screen, files, .stopped stop⟩
    | .ok (files, saved) =>
      showThen screen files saved fun screen => ⟨screen, files, .status (exitStatus scans)⟩
  if r.json then
    match jsonReport env settings scans with
    | .error stop => ⟨"", files, .stopped stop⟩
    | .ok text => finish (text ++ "\n")
  else
    match prints env.width settings r scans with
    | .error stop => ⟨"", files, .stopped stop⟩
    | .ok prints => showThen "" files prints finish

/-- Carries a request out. -/
def carryOut (env : Environment) (r : Request) : Outcome :=
  let failed (text : String) : Outcome :=
    showThen "" env.files [Console.message env.width .error text] fun screen =>
      ⟨screen, env.files, .status 1⟩
  match settingsOf env.files r with
  | .error fault => failed ("Could not load configuration: " ++ fault.message)
  | .ok settings =>
    match openLog env.files settings r.verbose with
    | .error stop => ⟨"", env.files, .stopped stop⟩
    | .ok files =>
      match Inspection.scanBatch settings files env.clock r.paths with
      | .error fault => failed ("Analysis failed: " ++ Console.Markup.escape fault.message)
      | .ok scans => present env settings r files scans

/-- What is shown to those who ask for help. -/
def helpText : String :=
  "Usage: pescope [OPTIONS] PATHS...\n\n" ++
  "  Read the import directory of each PE file in PATHS without running it.\n\n" ++
  "Options:\n" ++
  "  -l, --library TEXT      List the symbols imported from this library.\n" ++
  "  -s, --search TEXT       Regex an imported symbol name must fully match.\n" ++
  "  --library-pattern TEXT  Regex a library name must fully match.\n" ++
  "  -i, --ignore-case       Case-insensitive --search and --library-pattern.\n" ++
  "  --json                  Output results as JSON to stdout.\n" ++
  "  -o, --output FILE       Output report path (.json or .txt).\n" ++
  "  -c, --config FILE       TOML configuration file.\n" ++
  "  -v, --verbose           Enable verbose/debug output.\n" ++
  "  --help                  Show this message and exit.\n"

/-- Runs the command with some words. -/
def run (env : Environment) (words : List String) : Outcome :=
  match Request.ofWords env.files words with
  | .ok request => carryOut env request
  | .error .help => ⟨helpText, env.files, .status 0⟩
  | .error .zeroInPath => ⟨"", env.files, .stopped .zeroInPath⟩
  | .error (.overlargePattern fault) => ⟨"", env.files, .stopped (.pattern fault)⟩
  | .error _ => ⟨"", env.files, .status 2⟩

end ImageImports.Command

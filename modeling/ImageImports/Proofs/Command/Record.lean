import ImageImports.Proofs.Command.Run
import ImageImports.Proofs.Report.Layout
import ImageImports.Proofs.Json.Reading

/-!
# Runs that show a record

A run that is asked for a record shows the record of its scans and nothing else, whatever
else it is asked for: libraries and searches are not answered next to a record, and a stored
report is not spoken of.  A reader of the screen gets the report back, whatever names are in
the files.  The stored report is the same record, or the text report of the same scans.

Such a run reads its files under the default settings, and always comes to its end.

## Main results

* `present_record` — what is left when the scans of a batch are shown as a record.
* `run_record` — what a run leaves that is asked for a record.
-/

namespace ImageImports.Command

open Inspection (Accounts isImage scanJob)
open Request (ofGiven pathsOf lastValue?)

/-! ## Saving reports -/

/-- A file can be saved under a path name. -/
def Savable (files : Files) (path : String) : Prop :=
  '\x00' ∉ path.toList ∧ files.obstacle? (PathName.tidy path) = none

section

variable {files : Files} {path : String}

/-- What is already where a file can be saved is a file that is not locked. -/
theorem Savable.find?_eq_file (h : Savable files path) {place : List String} {node : FileNode}
    (hfind : files.find? path = some (place, node)) : ∃ bytes, node = .file bytes := by
  have hthere : files.at? (PathName.resolve files.home (PathName.tidy path)) = some node := by
    rw [PathName.resolve_tidy]
    exact Files.at?_of_find? hfind
  have hobstacle := h.2
  rw [Files.obstacle?, Files.isDirectory, Files.isLocked, hthere,
    Option.or_eq_none_iff] at hobstacle
  obtain ⟨-, hnone⟩ := hobstacle
  split at hnone
  · cases hnone
  · cases node with
    | file bytes => exact ⟨bytes, rfl⟩
    | locked size => cases hnone
    | directory => cases hnone

/-- A name that a report can be saved under passes the check of the option. -/
theorem Savable.checkPath (h : Savable files path) :
    Succeeds (Request.checkPath files false path) := by
  have hzero : ¬ path.toList.contains '\x00' = true :=
    fun hmem => h.1 (List.contains_iff_mem.1 hmem)
  rw [Request.checkPath, if_neg hzero]
  split
  · exact succeeds_ok _
  · next hfind =>
    obtain ⟨bytes, heq⟩ := h.find?_eq_file hfind
    cases heq
  · next hfind =>
    obtain ⟨bytes, heq⟩ := h.find?_eq_file hfind
    cases heq
  · exact succeeds_ok _

theorem Savable.save (h : Savable files path) (bytes : ByteArray) :
    files.save path bytes =
      .ok (files.write (PathName.resolve files.home path) bytes,
        PathName.resolve files.home path) := by
  have hnone : files.obstacle? (PathName.tidy path) = none := h.2
  unfold Files.save
  split
  · next fault hfault =>
    rw [hnone] at hfault
    cases hfault
  · rfl

end

/-! ## What a record says -/

/-- The report with some entries under the default settings. -/
def defaultReport (timeText : String) (entries : List Json) : Json :=
  .object
    [("report_type", .text Report.reportType), ("version", .text "1.0.0"),
      ("generated_at", .text timeText), ("files", .list entries)]

section

variable {env : Environment} {files : Files} {paths : List String} {scans : List Scan}

theorem record_default {entries : List Json} (h : scans.mapM Report.scanRecord = .ok entries) :
    Report.record (.text "1.0.0") env.timeText scans =
      .ok (defaultReport env.timeText entries) := by
  rw [Report.record, h]
  rfl

theorem jsonReport_default {entries : List Json}
    (h : scans.mapM Report.scanRecord = .ok entries) :
    jsonReport env .default scans = .ok (defaultReport env.timeText entries).pretty := by
  have hversion : (Settings.default.general.get "version").toJson = .text "1.0.0" := rfl
  rw [jsonReport, hversion]
  simp only [record_default h]

/-! ## Presenting a record -/

/-- The report that a run stores under a name: the record, or the text report. -/
def Holds (name : String) (scans : List Scan) (report : Json) (stored : String) : Prop :=
  if isJsonPath name then Json.parse? stored = some report else Report.text scans = .ok stored

/-- What is stored under the name that a request gives, if it gives one. -/
def Stores (r : Request) (scans : List Scan) (report : Json) (before after : Files) : Prop :=
  match r.output? with
  | none => after = before
  | some name => ∃ stored, Holds name scans report stored
      ∧ after = before.write (PathName.resolve before.home name) stored.toUTF8

theorem store_record {r : Request} {report : Json} {plain : String} (hjson : r.json = true)
    (hsavable : ∀ name, r.output? = some name → Savable env.files name)
    (hreport : jsonReport env .default scans = .ok report.pretty)
    (hread : Json.parse? report.pretty = some report) (hplain : Report.text scans = .ok plain) :
    ∃ after, store env .default r scans env.files = .ok (after, [])
      ∧ Stores r scans report env.files after := by
  unfold store Stores
  cases houtput : r.output? with
  | none => exact ⟨env.files, rfl, rfl⟩
  | some name =>
    have hsave := (hsavable name houtput).save
    by_cases hname : isJsonPath name = true
    · refine ⟨_, ?_, report.pretty, ?_, rfl⟩
      · simp only [if_pos hname, hreport, bind, Except.bind, pure, Except.pure, hsave,
          if_pos hjson]
      · rw [Holds, if_pos hname, hread]
    · refine ⟨_, ?_, plain, ?_, rfl⟩
      · simp only [if_neg hname, textReport, hplain, bind, Except.bind, pure, Except.pure, hsave,
          if_pos hjson]
      · rw [Holds, if_neg hname, hplain]

/-- What is left when the scans of readable files are shown as a record. -/
theorem present_record {r : Request} (hjson : r.json = true)
    (hsavable : ∀ name, r.output? = some name → Savable env.files name)
    (haccounts : List.Forall₂ (Accounts env.files) r.paths scans) :
    ∃ entries, scans.mapM Report.scanRecord = .ok entries
      ∧ let report := defaultReport env.timeText entries
        let outcome := present env .default r env.files scans
        Json.parse? outcome.screen = some report
        ∧ outcome.ending = .status (imageStatus env.files r.paths)
        ∧ Stores r scans report env.files outcome.files := by
  have hscans : ∀ scan ∈ scans, ∃ path, Accounts env.files path scan := by
    intro scan hscan
    obtain ⟨path, -, hpath⟩ := exists_mem_of_forall₂ haccounts scan hscan
    exact ⟨path, hpath⟩
  obtain ⟨entries, hentries⟩ : Succeeds (scans.mapM Report.scanRecord) := by
    refine succeeds_mapM_iff.2 fun scan hscan => ?_
    obtain ⟨path, hpath⟩ := hscans scan hscan
    exact scanRecord_succeeds hpath
  obtain ⟨plain, hplain⟩ : Succeeds (Report.text scans) := by
    refine ⟨_, Report.text_eq fun scan hscan => ?_⟩
    obtain ⟨path, hpath⟩ := hscans scan hscan
    exact ⟨_, hpath.stored⟩
  refine ⟨entries, hentries, ?_⟩
  intro report outcome
  have hreport : jsonReport env .default scans = .ok report.pretty := jsonReport_default hentries
  have halone : Json.parse? report.pretty = some report := by
    rw [← String.append_empty (s := report.pretty)]
    exact Json.parse?_pretty report rfl
  obtain ⟨after, hstore, hstores⟩ := store_record hjson hsavable hreport halone hplain
  have houtcome : outcome = ⟨report.pretty ++ "\n", after, .status (exitStatus scans)⟩ := by
    show present env .default r env.files scans = _
    rw [present, if_pos hjson, hreport]
    simp only [hstore]
    show Outcome.mk (report.pretty ++ "\n" ++ "") _ _ = _
    rw [String.append_empty]
  rw [houtcome]
  exact ⟨Json.parse?_pretty report rfl,
    congrArg Ending.status (exitStatus_eq_imageStatus haccounts), hstores⟩

end

/-! ## The whole run -/

/-- Parts that ask for a record of files that can be read, and leave the settings as they are.
Patterns are patterns, and a report that is to be stored can be saved. -/
structure RecordOrder (files : Files) (parts : List Part) : Prop where
  json : .flag .json ∈ parts
  noHelp : .flag .help ∉ parts
  noSettings : ∀ text, .value .config text ∉ parts
  somePath : pathsOf parts ≠ []
  readable : ∀ path ∈ pathsOf parts, ∃ bytes, files.read? path = some bytes
  search : ∀ text, lastValue? parts .search = some text → Succeeds (Import.nameTest text true)
  libraryPattern : ∀ text, lastValue? parts .libraryPattern = some text →
    Succeeds (Import.nameTest text true)
  savable : ∀ name, lastValue? parts .output = some name → name ≠ "" → Savable files name

/-- Such parts make a request. -/
theorem RecordOrder.ofParts {files : Files} {parts : List Part} (h : RecordOrder files parts) :
    Request.ofParts files parts = .ok (ofGiven parts) := by
  refine Request.ofParts_accepted h.noHelp h.somePath
    (fun path hpath => Request.succeeds_checkPath_iff.2 (h.readable path hpath)) ?_
  intro name text hlast
  cases name with
  | search => exact Request.succeeds_checkPattern_iff.2 (h.search text hlast)
  | libraryPattern => exact Request.succeeds_checkPattern_iff.2 (h.libraryPattern text hlast)
  | config => exact absurd (Request.lastValue?_eq_some hlast) (h.noSettings text)
  | output =>
    by_cases hempty : text = ""
    · rw [hempty]
      exact succeeds_ok _
    · exact (h.savable text hlast hempty).checkPath
  | library | ignoreCase | json | verbose | help => trivial

/-- Where the request stores a report, one can be saved. -/
theorem RecordOrder.savable_output {files : Files} {parts : List Part}
    (h : RecordOrder files parts) {name : String} (hname : (ofGiven parts).output? = some name) :
    Savable files name := by
  obtain ⟨text, hlast, hstored⟩ := Option.bind_eq_some_iff.1 hname
  rw [Request.storedUnder] at hstored
  split at hstored
  · cases hstored
  · next hempty =>
    cases hstored
    exact h.savable _ hlast fun heq => hempty (String.isEmpty_iff.2 heq)

/-- A run that asks for a record gets to the point where its scans are shown. -/
theorem RecordOrder.run_eq {env : Environment} {words : List String} {parts : List Part}
    (h : RecordOrder env.files parts) (hwords : read words = .ok parts) {scans : List Scan}
    (hscans : Inspection.scanBatch .default env.files env.clock (pathsOf parts) = .ok scans) :
    run env words = present env .default (ofGiven parts) env.files scans := by
  have hrequest : Request.ofWords env.files words = .ok (ofGiven parts) := by
    rw [Request.ofWords, hwords]
    exact h.ofParts
  have hsettings : settingsOf env.files (ofGiven parts) = .ok .default := by
    rw [settingsOf, ofGiven, Request.lastValue?_eq_none h.noSettings]
  have hbatch : Inspection.scanBatch .default env.files env.clock (ofGiven parts).paths =
      .ok scans := hscans
  rw [run, hrequest]
  simp only [carryOut, hsettings, openLog_default, hbatch]

theorem imageStatus_eq_zero_iff {files : Files} {paths : List String} :
    imageStatus files paths = 0 ↔ ∀ path ∈ paths, isImage files path = true := by
  simp [imageStatus]

/-- **What a run leaves that asks for a record**: on the screen one report and nothing else,
with an entry for every file, in order, that is the record of the file's scan; under the name
that a report is to be stored at, the same report, or the text report of the same scans; and a
status that is zero exactly if every file is an image. -/
theorem run_record {env : Environment} {words : List String} {parts : List Part}
    (hwords : read words = .ok parts) (h : RecordOrder env.files parts) :
    let paths := pathsOf parts
    let outcome := run env words
    ∃ scans entries,
      let report := defaultReport env.timeText entries
      List.Forall₂ (fun job scan => scanJob .default env.files env.clock job = .ok scan)
          paths.zipIdx scans
        ∧ List.Forall₂ (fun scan entry => Report.scanRecord scan = .ok entry) scans entries
        ∧ Json.parse? outcome.screen = some report
        ∧ (∃ code, outcome.ending = .status code
          ∧ (code = 0 ↔ ∀ path ∈ paths, isImage env.files path = true))
        ∧ Stores (ofGiven parts) scans report env.files outcome.files := by
  intro paths outcome
  obtain ⟨scans, hscans, hjobs, haccounts⟩ := Inspection.scanBatch_default env.clock h.readable
  have hrun : outcome = present env .default (ofGiven parts) env.files scans :=
    h.run_eq hwords hscans
  obtain ⟨entries, hentries, hscreen, hending, hstores⟩ :=
    present_record (List.contains_iff_mem.2 h.json) (fun _ => h.savable_output) haccounts
  rw [hrun]
  exact ⟨scans, entries, hjobs, forall₂_of_mapM_eq_ok hentries, hscreen,
    ⟨_, hending, imageStatus_eq_zero_iff⟩, hstores⟩

/-- Parts that ask for a record of the image under the name `a`, on the screen and as a file. -/
theorem closingTag_recordOrder :
    RecordOrder closingTagEnv.files [.path "a", .flag .json, .value .output "r.JSON"] where
  json := by decide
  noHelp := by decide
  noSettings := by simp
  somePath := by decide
  readable := List.forall_mem_singleton.2 exists_read?_closingTag
  search := fun text h => by cases h
  libraryPattern := fun text h => by cases h
  savable := by
    rintro name ⟨⟩ -
    exact ⟨by decide, by decide +kernel⟩

/-- The screen and the file hold the same report of the image. -/
theorem run_record_closingTag :
    ∃ outcome report stored, run closingTagEnv ["a", "--json", "-o", "r.JSON"] = outcome
      ∧ Json.parse? outcome.screen = some report
      ∧ outcome.ending = .status 0
      ∧ outcome.files.at? ["r.JSON"] = some (.file stored.toUTF8)
      ∧ Json.parse? stored = some report := by
  have hwords : read ["a", "--json", "-o", "r.JSON"] =
      .ok [.path "a", .flag .json, .value .output "r.JSON"] := rfl
  obtain ⟨scans, entries, -, -, hscreen, ⟨code, hending, hcode⟩, hstores⟩ :=
    run_record hwords closingTag_recordOrder
  have houtput : (ofGiven [.path "a", .flag .json, .value .output "r.JSON"]).output? =
      some "r.JSON" := rfl
  rw [Stores, houtput] at hstores
  obtain ⟨stored, hholds, hfiles⟩ := hstores
  have hname : isJsonPath "r.JSON" = true := by decide +kernel
  have hplace : PathName.resolve closingTagEnv.files.home "r.JSON" = ["r.JSON"] := by
    decide +kernel
  have himage : isImage closingTagEnv.files "a" = true := by decide +kernel
  rw [Holds, if_pos hname] at hholds
  refine ⟨_, _, stored, rfl, hscreen, ?_, ?_, hholds⟩
  · rw [hending, hcode.2 (List.forall_mem_singleton.2 himage)]
  · rw [hfiles, hplace]
    exact Files.at?_write _ _ _

end ImageImports.Command

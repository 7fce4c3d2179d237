import ImageImports.Proofs.Import.Told
import ImageImports.Proofs.Inspection

/-!
# What scans tell of files

A scan tells of a file in wording of the program's own, in names of the image, and in the
path name of the file.  Whatever the settings are, only names and path names can hold line
feeds, because a setting that cannot be used is told by its kind.

## Main results

* `toldInLines_of_analyze` — beside its names, an analysis holds no text with line feeds.
* `scanFile_told` — the summary of a file that was not analysed takes one line if the path name
  does.
-/

namespace ImageImports

open Calendar (Instant Span)
open Text (OneLine oneLine_append_iff oneLine_of_plain oneLine_ofList oneLine_toString_string)
open Wording (Plain)

/-! ## Settings -/

namespace Settings

theorem oneLine_kindWord (value : Toml.Value) : OneLine value.kindWord := by
  cases value with
  | moment m =>
    cases m with
    | date d | time c | dateTime d c offset? => exact oneLine_ofList rfl
  | nothing | text | int | real | bool | list | table => exact oneLine_ofList rfl

/-- Every setting is a limit that takes one line. -/
theorem inLine_limitOf (value : Toml.Value) : (limitOf value).InLine := by
  have hother {value : Toml.Value} : (⟨0, "", .other value.kindWord⟩ : Import.Limit).InLine := by
    refine ⟨oneLine_ofList rfl, fun word hword => ?_⟩
    injection hword with hword
    rw [← hword]
    exact oneLine_kindWord value
  cases value with
  | int n =>
    exact ⟨oneLine_of_plain (Wording.plain_intRepr n), fun word hword => by cases hword⟩
  | bool b =>
    refine ⟨?_, fun word hword => by cases hword⟩
    cases b with
    | false | true => exact oneLine_ofList rfl
  | real x =>
    exact ⟨oneLine_of_plain (Wording.plain_shortest x), fun word hword => by cases hword⟩
  | nothing | text | moment | list | table => exact hother

theorem inLine_limits (s : Settings) : s.limits.InLine :=
  ⟨inLine_limitOf _, inLine_limitOf _, inLine_limitOf _⟩

end Settings

/-! ## Analyses -/

/-- Beside the names in it, the texts of an analysis take one line each. -/
structure Analysis.ToldInLines (a : Analysis) : Prop where
  md5 : OneLine a.info.md5
  sha256 : OneLine a.info.sha256
  arch : OneLine a.info.arch
  subsystem : OneLine a.info.subsystem
  imports : (∀ l ∈ a.imports.libraries, OneLine l.name) →
    (∀ f, a.imports.error = some f → OneLine f.message)
      ∧ ∀ warning ∈ a.imports.warnings, OneLine warning

namespace Dissection

variable {limits : Import.Limits} {d : Dissection}

/-- The imports of an accepted image were read from it. -/
theorem exists_read_of_accepted (h : (d.parse limits).accepted = true) :
    ∃ r sections directories bits, (d.parse limits).dissection.imports =
      (Import.read r sections directories bits limits).table := by
  rw [parse] at h ⊢
  split at h
  · cases h
  · simp only at h ⊢
    split at h
    · cases h
    · exact ⟨_, _, _, _, rfl⟩

theorem fault_of_parse {fault : Import.SettingFault} (h : (d.parse limits).fault? = some fault) :
    limits.Raise fault := by
  rw [parse] at h
  split at h
  · cases h
  · simp only at h
    split at h
    · next hfault =>
      cases h
      exact Import.fault_of_read _ _ _ _ hfault
    · cases h

end Dissection

namespace Inspection

variable {limits : Import.Limits} {path : String} {bytes : ByteArray}

/-- Whatever the bytes are, only names put line feeds into their analysis. -/
theorem toldInLines_of_analyze (hlimits : limits.InLine) {a : Analysis}
    (h : analyze limits path bytes = .ok a) : a.ToldInLines := by
  rw [analyze] at h
  simp only at h
  split at h
  · cases h
  · injection h with h
    subst h
    have hmd5 : OneLine (Digest.Md5.digest bytes) := oneLine_of_plain (Wording.plain_hex _)
    have hsha256 : OneLine (Digest.Sha256.digest bytes) := oneLine_of_plain (Wording.plain_hex _)
    split
    · next haccepted =>
      obtain ⟨r, sections, directories, bits, hread⟩ :=
        Dissection.exists_read_of_accepted haccepted
      exact
        { md5 := hmd5
          sha256 := hsha256
          arch := oneLine_of_plain (Wording.plain_machineName _)
          subsystem := oneLine_of_plain (Wording.plain_subsystemName _)
          imports := by
            show (∀ l ∈ (Dissection.parse _ _).dissection.imports.libraries, OneLine l.name) →
              (∀ f, (Dissection.parse _ _).dissection.imports.error = some f → OneLine f.message)
                ∧ ∀ warning ∈ (Dissection.parse _ _).dissection.imports.warnings, OneLine warning
            rw [hread]
            exact Import.read_oneLine r sections directories bits hlimits }
    · exact
        { md5 := hmd5
          sha256 := hsha256
          arch := oneLine_ofList rfl
          subsystem := oneLine_ofList rfl
          imports := fun _ =>
            ⟨fun f hf => (by cases hf), fun warning hwarning => by cases hwarning⟩ }

theorem raise_of_analyze {fault : Import.SettingFault}
    (h : analyze limits path bytes = .error fault) : limits.Raise fault := by
  rw [analyze] at h
  simp only at h
  split at h
  · next hfault =>
    injection h with h
    rw [h] at hfault
    exact Dissection.fault_of_parse hfault
  · cases h

/-! ## Refusals -/

theorem plain_groupedReal (x : Float) : Plain (groupedReal x) := by
  have hplain := (Wording.plain_shortest x).forall
  have hsome {p : Char → Bool} {cs : List Char} (h : ∀ c ∈ cs, Wording.isPlain c = true) :
      (∀ c ∈ Decimal.groupThousands (cs.takeWhile p), Wording.isPlain c = true)
        ∧ ∀ c ∈ cs.dropWhile p, Wording.isPlain c = true := by
    refine ⟨fun c hc => ?_, fun c hc => h c ((List.dropWhile_sublist _).mem hc)⟩
    rcases Wording.mem_groupThousands hc with rfl | hc
    · decide
    · exact h c ((List.takeWhile_sublist _).mem hc)
  rw [groupedReal]
  split
  next sign text hsplit =>
  have hparts : (∀ c ∈ sign, Wording.isPlain c = true)
      ∧ ∀ c ∈ text, Wording.isPlain c = true := by
    split at hsplit
    · cases hsplit
      exact ⟨List.forall_mem_singleton.2 rfl, fun c hc => hplain c (List.mem_of_mem_drop hc)⟩
    · cases hsplit
      exact ⟨List.forall_mem_nil _, hplain⟩
  obtain ⟨hfront, hback⟩ := hsome (p := Char.isDigit) hparts.2
  refine Wording.wholly_ofList ?_
  rw [List.forall_mem_append, List.forall_mem_append]
  exact ⟨⟨hparts.1, hfront⟩, hback⟩

theorem plain_sizeLimitText (limit : Import.Limit) : Plain (sizeLimitText limit) := by
  rw [sizeLimitText]
  split
  · exact plain_groupedReal _
  · exact Wording.plain_grouped _

theorem oneLine_failed {fault : Import.SettingFault} (hfault : OneLine fault.message) :
    OneLine (Refusal.failed fault).message := by
  show OneLine ("Analysis failed: " ++ fault.message)
  exact oneLine_append_iff.2 ⟨oneLine_ofList rfl, hfault⟩

/-- What is told of a file that cannot be opened takes one line. -/
theorem oneLine_openFault (fault : Files.OpenFault) : OneLine fault.message := by
  cases fault with
  | way fault path =>
    cases fault <;> exact oneLine_append_iff.2 ⟨oneLine_ofList rfl, Text.oneLine_quoted path⟩
  | isDirectory path => exact oneLine_append_iff.2 ⟨oneLine_ofList rfl, Text.oneLine_quoted path⟩
  | denied path => exact oneLine_append_iff.2 ⟨oneLine_ofList rfl, Text.oneLine_quoted path⟩
  | zeroInPath => exact oneLine_ofList rfl

theorem oneLine_unreachable (fault : Files.OpenFault) :
    OneLine (Refusal.unreachable fault).message := by
  show OneLine ("Analysis failed: " ++ fault.message)
  exact oneLine_append_iff.2 ⟨oneLine_ofList rfl, oneLine_openFault fault⟩

/-- What is told of a file that was not loaded takes one line if its path name does. -/
theorem oneLine_unloaded {settings : Settings} {files : Files} {refusal : Refusal}
    (h : load files settings.limits.maxFileSize path = .error refusal) (hpath : OneLine path) :
    OneLine refusal.message := by
  rw [load] at h
  split at h
  · cases h
    exact oneLine_unreachable _
  · cases h
    show OneLine ("File not found: " ++ path)
    exact oneLine_append_iff.2 ⟨oneLine_ofList rfl, hpath⟩
  · next size _ =>
    split at h
    · next fault hfault =>
      cases h
      exact oneLine_failed
        ((Settings.inLine_limitOf _).comparisonFault? (oneLine_ofList rfl) hfault)
    · split at h
      · cases h
        have hsize : OneLine (Decimal.grouped size) :=
          oneLine_of_plain (Wording.plain_grouped _)
        have hlimit : OneLine (sizeLimitText settings.limits.maxFileSize) :=
          oneLine_of_plain (plain_sizeLimitText _)
        unfold Refusal.message
        simp only [oneLine_append_iff, oneLine_toString_string, hsize, hlimit, and_true]
        exact ⟨⟨oneLine_ofList rfl, oneLine_ofList rfl⟩, oneLine_ofList rfl⟩
      · cases hopen : files.openFile (PathName.tidy path) with
        | ok bytes =>
          rw [hopen] at h
          cases h
        | error fault =>
          rw [hopen] at h
          cases h
          exact oneLine_unreachable fault

/-- What can come of an examination. -/
inductive Examined (settings : Settings) (files : Files) (path : String) :
    Except Refusal (Analysis × List Finding) → Prop
  | unloaded {refusal : Refusal}
      (hload : load files settings.limits.maxFileSize path = .error refusal) :
    Examined settings files path (.error refusal)
  | failed {bytes : ByteArray} {fault : Import.SettingFault}
      (hload : load files settings.limits.maxFileSize path = .ok bytes)
      (hanalyze : analyze settings.limits (PathName.ofPlace (PathName.resolve files.home path))
        bytes = .error fault) :
    Examined settings files path (.error (.failed fault))
  | unacceptable {bytes : ByteArray} {a : Analysis} {faults : List Schema.Fault}
      (hload : load files settings.limits.maxFileSize path = .ok bytes)
      (hanalyze : analyze settings.limits (PathName.ofPlace (PathName.resolve files.home path))
        bytes = .ok a)
      (hfindings : a.findings = .faults faults) :
    Examined settings files path (.error (.unacceptable faults))
  | accepted {bytes : ByteArray} {a : Analysis} {findings : List Finding}
      (hload : load files settings.limits.maxFileSize path = .ok bytes)
      (hanalyze : analyze settings.limits (PathName.ofPlace (PathName.resolve files.home path))
        bytes = .ok a)
      (hfindings : a.findings = .ok findings) :
    Examined settings files path (.ok (a, findings))

theorem examined {settings : Settings} {files : Files}
    {result : Except Refusal (Analysis × List Finding)}
    (h : examine settings files path = result) : Examined settings files path result := by
  subst h
  rw [examine]
  cases hload : load files settings.limits.maxFileSize path with
  | error refusal => exact .unloaded hload
  | ok bytes =>
    simp only [bind, Except.bind]
    split
    · next hanalyze => exact .failed hload hanalyze
    · next hanalyze =>
      split
      · next hfindings => exact .accepted hload hanalyze hfindings
      · next hfindings => exact .unacceptable hload hanalyze hfindings

/-- What is told of a file that was not analysed takes one line if its path name does. -/
theorem oneLine_refusal {settings : Settings} {files : Files} {refusal : Refusal}
    (h : examine settings files path = .error refusal) (hpath : OneLine path) :
    OneLine refusal.message := by
  cases examined h with
  | unloaded hload => exact oneLine_unloaded hload hpath
  | failed hload hanalyze =>
    exact oneLine_failed (settings.inLine_limits.raise (raise_of_analyze hanalyze))
  | @unacceptable _ _ faults hload hanalyze hfindings =>
    have hcount : OneLine (toString faults.length) := oneLine_of_plain (Wording.plain_natRepr _)
    unfold Refusal.message
    simp only [oneLine_append_iff, oneLine_toString_string, hcount, and_true]
    exact ⟨oneLine_ofList rfl, oneLine_ofList rfl⟩

/-! ## Scans -/

/-- Where the texts of a scan come from that are not names of an image. -/
structure Tells (path : String) (scan : Scan) (analysis? : Option Analysis) : Prop where
  target : scan.target = path
  stored : Report.storedAnalysis scan = .ok analysis?
  refused : analysis? = none → OneLine path → OneLine scan.summary
  rejected : ∀ a, analysis? = some a → a.parsed = false → OneLine scan.summary
  analysed : ∀ a, analysis? = some a → a.ToldInLines

theorem eq_of_begin {now : Instant} {scan : Scan}
    (h : Scan.begin now toolName path = .ok scan) :
    scan = { toolName, target := path, started := now } := by
  by_cases hpath : path = ""
  · rw [hpath] at h
    cases h
  · rw [begin_ok now hpath] at h
    cases h
    rfl

/-- The scan of a file that was not analysed tells why. -/
theorem tells_refusal {refusal : Refusal} (span : Span)
    (hrefusal : OneLine path → OneLine refusal.message) :
    Tells path (conclude span.ended { toolName, target := path, started := span.began }
      (.error refusal)) none where
  target := rfl
  stored := rfl
  refused _ hpath := hrefusal hpath
  rejected a ha := by cases ha
  analysed a ha := by cases ha

/-- The scan of a file that was analysed keeps the analysis. -/
theorem tells_analysis {a : Analysis} (span : Span) (findings : List Finding)
    (htold : a.ToldInLines) :
    Tells path (conclude span.ended { toolName, target := path, started := span.began }
      (.ok (a, findings))) (some a) where
  target := rfl
  stored := by rw [Report.storedAnalysis, analysis_conclude]
  refused hnone := by cases hnone
  rejected := by
    rintro _ ⟨⟩ hparsed
    have hcount : OneLine (toString findings.length) :=
      oneLine_of_plain (Wording.plain_natRepr _)
    show OneLine (a.summary findings.length)
    rw [Analysis.summary, hparsed]
    show OneLine ("Not a PE image | Findings: " ++ toString findings.length)
    exact oneLine_append_iff.2 ⟨oneLine_ofList rfl, hcount⟩
  analysed := by
    rintro _ ⟨⟩
    exact htold

/-- Whatever the settings and the file are, the scan of a file tells of it in lines. -/
theorem scanFile_told {settings : Settings} {files : Files} {span : Span} {scan : Scan}
    (h : scanFile settings files span path = .ok scan) :
    ∃ analysis?, Tells path scan analysis? := by
  rw [scanFile] at h
  cases hbegin : Scan.begin span.began toolName path with
  | faults fs =>
    rw [hbegin] at h
    cases h
  | ok begun =>
    rw [hbegin] at h
    cases h
    rw [eq_of_begin hbegin]
    cases hexamine : examine settings files path with
    | error refusal =>
      exact ⟨none, tells_refusal span fun hpath => oneLine_refusal hexamine hpath⟩
    | ok found =>
      cases examined hexamine with
      | @accepted _ a findings hload hanalyze hfindings =>
        exact ⟨some a, tells_analysis span findings
          (toldInLines_of_analyze settings.inLine_limits hanalyze)⟩

end Inspection

end ImageImports

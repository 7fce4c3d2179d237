import ImageImports.Command.Run
import ImageImports.Proofs.Command.Inquiry
import ImageImports.Proofs.Inspection
import ImageImports.Proofs.Report.Record

/-!
# How runs end that only ask

A run that only asks about files that can be read ends with a status, and the status says
whether all of them are images, unless something cannot be shown.  A record is always
shown.  On the screen two things stand in the way: the name of a section that closes a tag
which is not open, since the table of sections takes names as markup, and a search that a
pattern gives no answer to.

## Main results

* `run_inquiry` — when the run of an inquiry comes to its end, and with what status.
-/

namespace ImageImports.Command

open Console (Print Quiet Inert Composed)
open Console.Markup (Shows)
open Inspection (Accounts analysisAt? isImage)

/-! ## Prints of a scan -/

/-- The searches of a request have an answer in a table. -/
def Request.Answers (r : Request) (t : Import.Table) : Prop :=
  ∀ pattern, r.search? = some pattern →
    Succeeds (t.searchByLibrary pattern r.libraryPattern !r.ignoreCase)

/-- The names of the sections of an image can be shown, or the screen has no room for
names. -/
def Legible (n : Nat) (a : Analysis) : Prop :=
  a.parsed = true → n ≤ 10 ∨ ∀ s ∈ a.sections, Shows s.displayName

/-- A target and wording behind it can be shown. -/
theorem summaryText_shows {scan : Scan} (h : Quiet scan.summary) :
    Shows (summaryText scan) := by
  have htarget : Composed (Console.Markup.escape scan.target) :=
    (Console.inert_escape scan.target).composed
  have hsummary : Composed (Console.Markup.escape scan.summary) :=
    (Console.inert_escape scan.summary).composed
  have hopens : Console.Opens (Console.Markup.escape scan.summary) :=
    fun rest hrest => Console.Markup.opensNext_escape h.opensNext_toList hrest
  exact (htarget.append (by decide) (by decide) hsummary hopens).shows

/-- A computation gives prints, and all of them can be shown. -/
def AllShown (x : Except Stop (List Print)) : Prop :=
  ∃ prints, x = .ok prints ∧ ∀ p ∈ prints, Succeeds p

theorem allShown_ok_iff {prints : List Print} :
    AllShown (.ok prints) ↔ ∀ p ∈ prints, Succeeds p := by
  constructor
  · rintro ⟨_, ⟨⟩, h⟩
    exact h
  · exact fun h => ⟨prints, rfl, h⟩

theorem not_allShown_error (stop : Stop) : ¬ AllShown (.error stop) := by
  rintro ⟨prints, h, -⟩
  cases h

/-- Prints that are put together with others which show under a condition. -/
theorem allShown_bind_iff {x : Except Stop (List Print)} {f : List Print → List Print}
    {c : Prop}
    (hf : ∀ prints, (∀ p ∈ f prints, Succeeds p) ↔ c ∧ ∀ p ∈ prints, Succeeds p) :
    AllShown (x >>= fun prints => pure (f prints)) ↔ c ∧ AllShown x := by
  cases x with
  | error stop => exact iff_of_false (not_allShown_error stop) fun h =>
    not_allShown_error stop h.2
  | ok prints =>
    show AllShown (.ok (f prints)) ↔ _
    rw [allShown_ok_iff, allShown_ok_iff, hf]

/-- The prints of a list are shown when those of its members are. -/
theorem allShown_flatten_iff {α : Type} {f : α → Except Stop (List Print)} {as : List α} :
    AllShown (as.mapM f >>= fun shown => pure shown.flatten) ↔
      ∀ a ∈ as, AllShown (f a) := by
  induction as with
  | nil => exact iff_of_true ⟨[], rfl, fun p hp => by cases hp⟩ fun a ha => by cases ha
  | cons a rest ih =>
    rw [List.forall_mem_cons, ← ih, List.mapM_cons]
    cases hfirst : f a with
    | error stop =>
      exact iff_of_false (not_allShown_error stop) fun h => not_allShown_error stop h.1
    | ok first =>
      cases hothers : rest.mapM f with
      | error stop =>
        exact iff_of_false (not_allShown_error stop) fun h => not_allShown_error stop h.2
      | ok others =>
        show AllShown (.ok (first :: others).flatten) ↔
          AllShown (.ok first) ∧ AllShown (.ok others.flatten)
        rw [allShown_ok_iff, allShown_ok_iff, allShown_ok_iff, List.flatten_cons,
          List.forall_mem_append]

theorem durationPrints_succeed {n : Nat} {scan : Scan} {micros : Int}
    (h : scan.duration? = some (some micros)) :
    ∀ p ∈ durationPrints n scan, Succeeds p := by
  intro p hp
  rw [durationPrints, h, List.mem_singleton] at hp
  rw [hp]
  refine Console.succeeds_message_iff.2 (Quiet.shows ?_)
  simp +decide

/-- What a request asks to be listed of a table can be listed, and it can be shown unless the name
of the library has brackets. -/
theorem listedPrints_ok (n : Nat) (r : Request) {t : Import.Table} (h : t.Listable) :
    ∃ listed, listedPrints n r t = .ok listed
      ∧ ((∀ name, r.library? = some name → '[' ∉ name.toList) → ∀ p ∈ listed, Succeeds p) := by
  rw [listedPrints]
  cases r.library? with
  | none => exact ⟨[], rfl, fun _ p hp => by cases hp⟩
  | some name =>
    obtain ⟨names, hnames⟩ := h.functionsOf?_eq name
    simp only [hnames]
    exact ⟨_, rfl, fun hlibrary => Console.functions_succeeds n (hlibrary name rfl) names⟩

section

variable {n : Nat} {r : Request}
    (hlibrary : ∀ name, r.library? = some name → '[' ∉ name.toList)

include hlibrary

/-- The answers to the queries of a request can be shown when its searches have one. -/
theorem queryPrints_allShown_iff {t : Import.Table} (h : t.Listable) :
    AllShown (queryPrints n .default r t) ↔ r.Answers t := by
  obtain ⟨listed, hprints, hshows⟩ := listedPrints_ok n r h
  have hlisted := hshows hlibrary
  have hcase : Settings.default.caseSensitive = true := rfl
  rw [queryPrints, hprints, Request.Answers]
  simp only [bind, Except.bind]
  cases hpattern : r.search? with
  | none => exact iff_of_true (allShown_ok_iff.2 hlisted) fun pattern h => by cases h
  | some pattern =>
    simp only [Option.some.injEq, forall_eq', hcase, Bool.and_true]
    cases t.searchByLibrary pattern r.libraryPattern !r.ignoreCase with
    | error fault => exact iff_of_false (not_allShown_error _) (not_succeeds_error fault)
    | ok hits =>
      refine iff_of_true (allShown_ok_iff.2 ?_) (succeeds_ok hits)
      exact List.forall_mem_append.2 ⟨hlisted, Console.searchHits_succeeds n pattern hits⟩

/-- What is shown of a scan can be shown when its searches have an answer and the names of
its sections can be shown. -/
theorem scanPrints_allShown_iff {files : Files} {path : String} {scan : Scan}
    (h : Accounts files path scan) :
    AllShown (scanPrints n .default r scan) ↔
      ∀ a, analysisAt? files path = some a → r.Answers a.imports ∧ Legible n a := by
  have hsummary (tone : Console.Tone) :
      Succeeds (Console.message n tone (summaryText scan)) :=
    Console.succeeds_message_iff.2 (summaryText_shows h.summary)
  obtain ⟨micros, hmicros⟩ := h.duration
  have hduration := durationPrints_succeed (n := n) hmicros
  have hblank : Succeeds Console.blank := succeeds_ok _
  rw [scanPrints, h.stored]
  cases hanalysis : analysisAt? files path with
  | none =>
    refine iff_of_true (allShown_ok_iff.2 ?_) fun a ha => by cases ha
    exact List.forall_mem_singleton.2 (hsummary .error)
  | some a =>
    simp only [Option.some.injEq, forall_eq']
    rw [allShown_bind_iff (c := Legible n a),
      queryPrints_allShown_iff hlibrary (h.listable a hanalysis), and_comm]
    intro answers
    simp only [List.forall_mem_append, List.forall_mem_singleton,
      Console.analysis_succeeds_iff scan.findings (h.told a hanalysis)]
    constructor
    · rintro ⟨⟨⟨⟨hlegible, hanswers⟩, -⟩, -⟩, -⟩
      exact ⟨hlegible, hanswers⟩
    · rintro ⟨hlegible, hanswers⟩
      exact ⟨⟨⟨⟨hlegible, hanswers⟩, hsummary .info⟩, hduration⟩, hblank⟩

/-- What is shown of a batch can be shown when that holds of each of its scans. -/
theorem prints_allShown_iff {files : Files} {paths : List String} {scans : List Scan}
    (h : List.Forall₂ (Accounts files) paths scans) :
    AllShown (prints n .default r scans) ↔
      ∀ path ∈ paths, ∀ a, analysisAt? files path = some a →
        r.Answers a.imports ∧ Legible n a := by
  have hscans : (∀ scan ∈ scans, AllShown (scanPrints n .default r scan)) ↔
      ∀ path ∈ paths, ∀ a, analysisAt? files path = some a →
        r.Answers a.imports ∧ Legible n a := by
    induction h with
    | nil =>
      exact iff_of_true (fun scan hscan => by cases hscan) fun path hpath => by cases hpath
    | cons hfirst _ ih =>
      rw [List.forall_mem_cons, List.forall_mem_cons, ih,
        scanPrints_allShown_iff hlibrary hfirst]
  have hprints : prints n .default r scans =
      (scans.mapM (scanPrints n .default r) >>= fun shown =>
        pure shown.flatten) >>= fun shown =>
        pure (Console.banner n
          (Settings.default.general.get "version").toJson.shown :: shown) := by
    rw [prints, bind_assoc]
    rfl
  rw [← hscans, ← allShown_flatten_iff, hprints, allShown_bind_iff (c := True), true_and]
  intro shown
  rw [List.forall_mem_cons]
  exact and_congr_left fun _ => iff_of_true (succeeds_ok _) trivial

end

/-- Only a search without an answer keeps queries from being answered. -/
theorem queryPrints_error {n : Nat} {r : Request} {t : Import.Table} {stop : Stop}
    (hlistable : t.Listable) (h : queryPrints n .default r t = .error stop) :
    ∃ fault, stop = .pattern fault := by
  obtain ⟨listed, hlisted, -⟩ := listedPrints_ok n r hlistable
  rw [queryPrints, hlisted] at h
  simp only [bind, Except.bind] at h
  cases hpattern : r.search? with
  | none =>
    rw [hpattern] at h
    cases h
  | some pattern =>
    rw [hpattern] at h
    simp only at h
    split at h
    · cases h
    · next fault _ =>
      cases h
      exact ⟨fault, rfl⟩

theorem scanPrints_error {n : Nat} {r : Request} {files : Files} {path : String}
    {scan : Scan} (h : Accounts files path scan) {stop : Stop}
    (hstop : scanPrints n .default r scan = .error stop) :
    ∃ fault, stop = .pattern fault := by
  rw [scanPrints, h.stored] at hstop
  cases hanalysis : analysisAt? files path with
  | none =>
    rw [hanalysis] at hstop
    cases hstop
  | some a =>
    rw [hanalysis] at hstop
    cases hanswers : queryPrints n .default r a.imports with
    | error other =>
      simp only [hanswers] at hstop
      cases hstop
      exact queryPrints_error (h.listable a hanalysis) hanswers
    | ok answers =>
      simp only [hanswers] at hstop
      cases hstop

/-- Only a search without an answer keeps a batch from being told. -/
theorem prints_error {n : Nat} {r : Request} {files : Files} {paths : List String}
    {scans : List Scan} (h : List.Forall₂ (Accounts files) paths scans) {stop : Stop}
    (hstop : prints n .default r scans = .error stop) :
    ∃ fault, stop = .pattern fault := by
  cases hshown : scans.mapM (scanPrints n .default r) with
  | error other =>
    rw [prints, hshown] at hstop
    cases hstop
    obtain ⟨scan, hscan, hfault⟩ := exists_of_mapM_eq_error hshown
    obtain ⟨path, -, hpath⟩ := exists_mem_of_forall₂ h scan hscan
    exact scanPrints_error hpath hfault
  | ok shown =>
    rw [prints, hshown] at hstop
    cases hstop

/-! ## The end of a run -/

/-- The default settings name no log file. -/
theorem openLog_default (files : Files) {verbose : Bool} :
    openLog files .default verbose = .ok files := by
  obtain ⟨word, hword, level, hthreshold⟩ : ∃ word, thresholdWord .default verbose = .ok word
      ∧ ∃ level, Log.threshold word = .ok level := by
    cases verbose with
    | false => exact ⟨"INFO", rfl, 20, by decide +kernel⟩
    | true => exact ⟨"DEBUG", rfl, 10, by decide +kernel⟩
  unfold openLog
  simp only [hword, bind, Except.bind, hthreshold]
  rfl

/-- Prints that can all be shown are followed by what comes next. -/
theorem showThen_of_succeeds (screen : String) (files : Files) {prints : List Print}
    (h : ∀ p ∈ prints, Succeeds p) :
    ∃ text, ∀ next, showThen screen files prints next = next text := by
  refine ⟨screen ++ (onScreen prints).1, fun next => ?_⟩
  rw [showThen, onScreen, Console.shown_fault_eq_none_iff.2 h]
  rfl

/-- A run stops at a print that cannot be shown. -/
theorem showThen_of_not_succeeds (screen : String) (files : Files) {prints : List Print}
    (h : ¬ ∀ p ∈ prints, Succeeds p) (next : String → Outcome) :
    ∃ fault, (showThen screen files prints next).ending = .stopped (.screen fault) := by
  rw [← Console.shown_fault_eq_none_iff] at h
  obtain ⟨fault, hfault⟩ := Option.ne_none_iff_exists'.1 h
  rw [showThen, onScreen, hfault]
  exact ⟨_, rfl⟩

/-- The scan of a readable file has a record. -/
theorem scanRecord_succeeds {files : Files} {path : String} {scan : Scan}
    (h : Accounts files path scan) : Succeeds (Report.scanRecord scan) := by
  obtain ⟨micros, hmicros⟩ := h.duration
  have hduration : Report.durationRecord scan = .ok (.real (Report.secondsOf micros)) := by
    rw [Report.durationRecord, hmicros]
  have himage := Report.imageField_eq_ok_iff.2 ⟨h.listable, rfl⟩
  rw [Report.scanRecord, hduration, h.stored]
  simp only [bind, Except.bind, himage]
  exact succeeds_pure _

/-- Every batch of readable files can be reported. -/
theorem jsonReport_succeeds (env : Environment) {files : Files} {paths : List String}
    {scans : List Scan} (h : List.Forall₂ (Accounts files) paths scans) :
    ∃ text, jsonReport env .default scans = .ok text := by
  have hrecord : ∀ scan ∈ scans, Succeeds (Report.scanRecord scan) := by
    intro scan hscan
    obtain ⟨path, -, hpath⟩ := exists_mem_of_forall₂ h scan hscan
    exact scanRecord_succeeds hpath
  obtain ⟨records, hrecords⟩ := succeeds_mapM_iff.2 hrecord
  rw [jsonReport, Report.record, hrecords]
  exact ⟨_, rfl⟩

/-- The status is zero when every file is an image. -/
def imageStatus (files : Files) (paths : List String) : Nat :=
  if paths.all (isImage files) then 0 else 1

theorem exitStatus_eq_imageStatus {files : Files} {paths : List String}
    {scans : List Scan} (h : List.Forall₂ (Accounts files) paths scans) :
    exitStatus scans = imageStatus files paths := by
  have hall : scans.all (·.success) = paths.all (isImage files) := by
    induction h with
    | nil => rfl
    | cons hfirst _ ih => rw [List.all_cons, List.all_cons, ih, hfirst.success]
  rw [exitStatus, imageStatus, hall]

/-- A stop while results are shown: a print cannot be laid out, or a search has no
answer. -/
def Stop.InShowing : Stop → Prop
  | .screen _ | .pattern _ => True
  | _ => False

section

variable {env : Environment} {r : Request} {scans : List Scan}

/-- A request that stores no report ends when it has shown what it shows. -/
theorem present_json (houtput : r.output? = none) (hjson : r.json = true)
    (h : List.Forall₂ (Accounts env.files) r.paths scans) :
    (present env .default r env.files scans).ending =
      .status (imageStatus env.files r.paths) := by
  obtain ⟨text, htext⟩ := jsonReport_succeeds env h
  rw [present, if_pos hjson, htext]
  simp only [store, houtput]
  rw [← exitStatus_eq_imageStatus h]
  rfl

theorem present_screen (houtput : r.output? = none) (hjson : ¬ r.json = true)
    (hlibrary : ∀ name, r.library? = some name → '[' ∉ name.toList)
    (h : List.Forall₂ (Accounts env.files) r.paths scans) :
    let shown := ∀ path ∈ r.paths, ∀ a, analysisAt? env.files path = some a →
      r.Answers a.imports ∧ Legible env.width a
    (shown → (present env .default r env.files scans).ending =
        .status (imageStatus env.files r.paths))
      ∧ (¬ shown → ∃ stop, (present env .default r env.files scans).ending = .stopped stop
        ∧ stop.InShowing) := by
  rw [← prints_allShown_iff hlibrary h, present, if_neg hjson]
  constructor
  · rintro ⟨shown, hshown, hall⟩
    obtain ⟨text, hnext⟩ := showThen_of_succeeds "" env.files hall
    simp only [hshown, hnext, store, houtput]
    rw [← exitStatus_eq_imageStatus h]
    rfl
  · intro hnot
    cases hshown : prints env.width .default r scans with
    | error stop =>
      obtain ⟨fault, rfl⟩ := prints_error h hshown
      exact ⟨_, rfl, trivial⟩
    | ok shown =>
      obtain ⟨fault, hfault⟩ :=
        showThen_of_not_succeeds "" env.files (fun hall => hnot ⟨shown, hshown, hall⟩) _
      exact ⟨_, hfault, trivial⟩

end

/-- Everything that an inquiry finds can be shown: it asks for a record, or its searches
have answers and no name of a section stands in the way. -/
def Request.CanBeShown (env : Environment) (r : Request) : Prop :=
  r.json = true ∨ ∀ path ∈ r.paths, ∀ a, analysisAt? env.files path = some a →
    r.Answers a.imports ∧ Legible env.width a

/-- **How a run ends that only asks**: with the status that says whether all files are
images, if everything that is found can be shown, and on the way otherwise. -/
theorem run_inquiry {env : Environment} {words : List String} {parts : List Part}
    (hwords : read words = .ok parts) (h : Inquiry env.files parts) :
    let r := Request.ofInquiry parts
    (r.CanBeShown env → (run env words).ending = .status (imageStatus env.files r.paths))
      ∧ (¬ r.CanBeShown env →
        ∃ stop, (run env words).ending = .stopped stop ∧ stop.InShowing) := by
  intro r
  obtain ⟨scans, hscans, -, haccounts⟩ := Inspection.scanBatch_default env.clock h.readable
  have hrequest : Request.ofWords env.files words = .ok r := by
    rw [Request.ofWords, hwords]
    exact Request.ofParts_inquiry h
  have hrun : run env words = present env .default r env.files scans := by
    have hlog : openLog env.files .default r.verbose = .ok env.files :=
      openLog_default env.files
    have hbatch : Inspection.scanBatch .default env.files env.clock r.paths =
        .ok scans := hscans
    rw [run, hrequest]
    simp only [carryOut]
    rw [show settingsOf env.files r = .ok .default from rfl]
    simp only [hlog, hbatch]
  have hlibrary : ∀ name, r.library? = some name → '[' ∉ name.toList :=
    fun name hname => h.library name (Request.lastValue?_eq_some hname)
  rw [hrun]
  by_cases hjson : r.json = true
  · refine ⟨fun _ => present_json rfl hjson haccounts, fun hnot =>
      absurd (.inl hjson) hnot⟩
  · obtain ⟨hshown, hnot⟩ := present_screen rfl hjson hlibrary haccounts
    refine ⟨fun h => hshown ?_, fun h => hnot fun hshown => h (.inr hshown)⟩
    exact h.resolve_left hjson

/-! ### A section named like a tag -/

/-- An image whose only section is named `[/b]`, which closes a tag that is not open. -/
def closingTag : ByteArray :=
  ⟨#[0x4d, 0x5a] ++ Array.replicate 58 0 ++ #[
    0x40, 0, 0, 0, 0x50, 0x45, 0, 0,
    0x4c, 1, 1, 0, 0, 0, 0, 0x5f, 0, 0, 0, 0, 0, 0, 0, 0, 0, 0, 2, 1,
    0x5b, 0x2f, 0x62, 0x5d, 0, 0, 0, 0, 0, 0x10, 0, 0, 0, 0x10, 0, 0, 0, 2, 0, 0,
      0x80, 0, 0, 0,
    0, 0, 0, 0, 0, 0, 0, 0, 0, 0, 0, 0, 0x20, 0, 0, 0x60]⟩

/-- A place with `closingTag` under the name `a`. -/
def closingTagEnv : Environment where
  files := { home := [], entries := [(["a"], .file closingTag)] }
  width := 80
  clock := fun _ => ⟨⟨0, some 0⟩, 1500000⟩
  timeText := ""

theorem exists_read?_closingTag : ∃ bytes, closingTagEnv.files.read? "a" = some bytes :=
  Option.isSome_iff_exists.1 (by decide +kernel)

/-- Parts that name `a` and set some flags ask about a file that can be read. -/
theorem closingTag_inquiry {flags : List Part} (h : flags = [] ∨ flags = [.flag .json]) :
    Inquiry closingTagEnv.files (.path "a" :: flags) := by
  have hpaths : Request.pathsOf (.path "a" :: flags) = ["a"] := by
    rcases h with rfl | rfl
    · rfl
    · rfl
  have hvalue (name : OptionName) (text : String) :
      .value name text ∉ Part.path "a" :: flags := by
    rcases h with rfl | rfl
    · simp
    · simp
  exact
    { asks := by rcases h with rfl | rfl <;> decide
      somePath := by
        rw [hpaths]
        decide
      readable := by
        rw [hpaths]
        exact List.forall_mem_singleton.2 exists_read?_closingTag
      search := fun text ht => absurd ht (hvalue _ _)
      libraryPattern := fun text ht => absurd ht (hvalue _ _)
      library := fun text ht => absurd ht (hvalue _ _) }

theorem not_shows_closingTag : ¬ Shows "[/b]" := by
  rintro ⟨shown, hshown⟩
  have hfails : (Console.Markup.plain "[/b]").isOk = false := by decide +kernel
  rw [hshown] at hfails
  cases hfails

/-- The image is reported as a record with status zero, and stops the run on a screen. -/
theorem run_closingTag :
    (run closingTagEnv ["a", "--json"]).ending = .status 0
      ∧ ∃ stop, (run closingTagEnv ["a"]).ending = .stopped stop ∧ stop.InShowing := by
  have hstatus : imageStatus closingTagEnv.files ["a"] = 0 := by decide +kernel
  have hname : (analysisAt? closingTagEnv.files "a").map
      (fun a => (a.parsed, a.sections.map (·.displayName))) = some (true, ["[/b]"]) := by
    decide +kernel
  have hjson : read ["a", "--json"] = .ok [.path "a", .flag .json] := rfl
  constructor
  · rw [(run_inquiry hjson (closingTag_inquiry (.inr rfl))).1 (.inl rfl)]
    exact congrArg Ending.status hstatus
  · refine (@run_inquiry closingTagEnv ["a"] _ rfl (closingTag_inquiry (.inl rfl))).2 ?_
    rintro (h | h)
    · cases h
    · obtain ⟨a, ha, heq⟩ := Option.map_eq_some_iff.1 hname
      obtain ⟨hparsed, hnames⟩ := Prod.mk.inj heq
      have hsection : "[/b]" ∈ a.sections.map (·.displayName) := by
        rw [hnames]
        exact List.mem_singleton_self _
      obtain ⟨s, hs, hs'⟩ := List.mem_map.1 hsection
      rcases (h "a" List.mem_cons_self a ha).2 hparsed with hnarrow | hshows
      · exact absurd hnarrow (by decide)
      · refine not_shows_closingTag ?_
        rw [← hs']
        exact hshows s hs

end ImageImports.Command

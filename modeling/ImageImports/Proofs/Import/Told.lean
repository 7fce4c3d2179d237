import ImageImports.Proofs.Import.Warned
import ImageImports.Proofs.Lines

/-!
# What messages take from an image

What is told of the reading of an import directory is wording, except for names of libraries.
So a message breaks into several lines only if a library name does.  The limits that messages
give are texts of the settings, and they may be of any kind.

## Main results

* `read_oneLine` — the failure and the warnings of a reading take one line each if every
  library name does.
-/

namespace ImageImports.Import

open Text (OneLine oneLine_append_iff oneLine_of_plain oneLine_ofList
  oneLine_toString_string)

/-! ## Causes -/

namespace Cause

/-- The limit that the message of a cause gives. -/
def limit? : Cause → Option String
  | tooManyLibraries limit _ | tooManyEntries _ limit _ => some limit
  | _ => none

/-- A cause is told in one line if its library and its limit take one line. -/
theorem oneLine_message {c : Cause} (hlibrary : OneLine c.library)
    (hlimit : ∀ limit ∈ c.limit?, OneLine limit) : OneLine c.message := by
  have hhex (n : Int) : OneLine (Bytes.hexNumber n) := oneLine_of_plain (Wording.plain_hexNumber n)
  unfold message
  cases c with
  | widthUnknown | descriptorsUnterminated => exact oneLine_ofList rfl
  | directoryUnreachable e =>
    have hindex : OneLine (toString e.index) := oneLine_of_plain (Wording.plain_intRepr e.index)
    unfold DataDirectory.Unreachable.message
    simp only [oneLine_append_iff, oneLine_toString_string, hhex, hindex, and_true]
    exact ⟨⟨oneLine_ofList rfl, oneLine_ofList rfl⟩, oneLine_ofList rfl⟩
  | directoryBeyondEnd | descriptorUnreadable | firstNameUnreadable =>
    simp only [oneLine_append_iff, oneLine_toString_string, hhex, and_true]
    exact ⟨oneLine_ofList rfl, oneLine_ofList rfl⟩
  | tooManyLibraries limit position =>
    have hlimit := hlimit limit rfl
    simp only [oneLine_append_iff, oneLine_toString_string, hlimit, and_true]
    exact ⟨oneLine_ofList rfl, oneLine_ofList rfl⟩
  | tooManyEntries library limit position =>
    have hlibrary : OneLine library := hlibrary
    have hlimit := hlimit limit rfl
    simp only [oneLine_append_iff, oneLine_toString_string, hlibrary, hlimit, and_true, true_and]
    exact ⟨oneLine_ofList rfl, oneLine_ofList rfl⟩
  | lookupUnterminated library =>
    have hlibrary : OneLine library := hlibrary
    simp only [oneLine_append_iff, oneLine_toString_string, hlibrary, and_true]
    exact ⟨oneLine_ofList rfl, oneLine_ofList rfl⟩
  | lookupUnreachable library | lookupInDescriptors library | lookupUnreadable library
  | hintUnreachable library | hintUnreadable library =>
    have hlibrary : OneLine library := hlibrary
    simp only [oneLine_append_iff, oneLine_toString_string, hhex, hlibrary, and_true]
    exact ⟨⟨oneLine_ofList rfl, oneLine_ofList rfl⟩, oneLine_ofList rfl⟩

/-- The cause names no library but one of these, and no limit but those that are set. -/
structure Tells (limits : Limits) (libraries : List Library) (c : Cause) : Prop where
  library : c.library = "" ∨ ∃ l ∈ libraries, l.name = c.library
  limit : ∀ limit ∈ c.limit?,
    limit = limits.maxLibraries.label ∨ limit = limits.maxEntriesPerLibrary.label

end Cause

namespace Context

variable (ctx : Context) (bytes : ByteArray)

/-! ## Limits that are told -/

theorem limit?_of_descriptorAt {tableEnd? : Option Int} {offset count : Nat} {cause : Cause}
    (h : ctx.descriptorAt bytes tableEnd? offset count = .error (.stopped (.aborted cause))) :
    ∀ limit ∈ cause.limit?, limit = ctx.limits.maxLibraries.label := by
  intro limit hlimit
  cases ctx.descriptorStep bytes h with
  | unterminated hpast => cases hlimit
  | unreadable hin hnone => cases hlimit
  | namelessFirst hat htables hname hcount => cases hlimit
  | full hat htables hname hfull hstop =>
    rw [limitStop_eq_aborted hstop] at hlimit
    exact (Option.mem_some_iff.1 hlimit).symm

theorem limit?_of_entryAt {library : String} {tableEnd? : Option Int} {offset count : Nat}
    {cause : Cause} (h : ctx.entryAt bytes library tableEnd? offset count =
      .error (.stopped (.aborted cause))) :
    ∀ limit ∈ cause.limit?, limit = ctx.limits.maxEntriesPerLibrary.label := by
  intro limit hlimit
  cases ctx.entryStep bytes h with
  | unterminated hpast => cases hlimit
  | unreadable hin hnone => cases hlimit
  | full hat hzero hfull hstop =>
    rw [limitStop_eq_aborted hstop] at hlimit
    exact (Option.mem_some_iff.1 hlimit).symm
  | hintStopped hat hzero hfew hhint =>
    rcases ctx.of_hintNameIn_aborted bytes hhint with ⟨-, rfl⟩ | ⟨place, -, rfl⟩
    · cases hlimit
    · cases hlimit

theorem limit?_of_stoppedAt {arrayStart arrayEnd : Int} {cause : Cause} {l : Library}
    (h : ctx.StoppedAt bytes arrayStart arrayEnd (.aborted cause) l) :
    ∀ limit ∈ cause.limit?, limit = ctx.limits.maxEntriesPerLibrary.label := by
  obtain ⟨-, hending⟩ := h
  rcases ctx.lookupIn_cases bytes arrayStart arrayEnd l.descriptor with
    ⟨-, -, hstop⟩ | ⟨start, -, ⟨-, -, hstop⟩ | ⟨-, -, -, hstop⟩ | ⟨-, -, hrun⟩⟩
  · cases hending.symm.trans hstop
    intro limit hlimit
    cases hlimit
  · cases hending.symm.trans hstop
    intro limit hlimit
    cases hlimit
  · cases hending.symm.trans hstop
    intro limit hlimit
    cases hlimit
  · have hlast := hrun.last
    rw [hending] at hlast
    exact ctx.limit?_of_entryAt bytes hlast

/-! ## The whole directory -/

variable {bits : Option Int} {location : DataDirectory.Location}

/-- A failure tells of a library of the table, or of none. -/
theorem error_readAt (r : Reader) {f : Failure}
    (hf : (readAt ctx bits location r).table.error = some f) :
    ∃ cause : Cause, f = cause.failure
      ∧ cause.Tells ctx.limits (readAt ctx bits location r).table.libraries := by
  rcases ctx.readAt_cases bits location r with ⟨-, hread⟩ | ⟨-, -, stop, hstop, hread⟩ |
    ⟨-, -, -, libraries, reader, stop?, hread, -, htables⟩
  · rw [hread] at hf ⊢
    cases hf
    refine ⟨_, rfl, .inl rfl, fun limit hlimit => ?_⟩
    cases hlimit
  · rw [hread] at hf ⊢
    cases stop with
    | aborted cause =>
      cases hf
      have hlast := (ctx.descriptorsIn_follows r.data location).last
      rw [hstop] at hlast
      obtain ⟨-, hlibrary, -, -⟩ := ctx.of_descriptorAt_aborted r.data hlast
      have hlimit := ctx.limit?_of_descriptorAt r.data hlast
      exact ⟨cause, rfl, .inl hlibrary, fun limit h => .inl (hlimit limit h)⟩
    | fault fault => cases hf
  · rw [hread] at hf ⊢
    rcases stop? with _ | cause | fault
    · cases hf
    · cases hf
      obtain ⟨before, l, behind, hsplit, -, hl, -⟩ := htables
      obtain ⟨hname, -⟩ := ctx.lookupBrokeOff_of_stoppedAt r.data hl
      have hlimit := ctx.limit?_of_stoppedAt r.data hl
      refine ⟨cause, rfl, .inr ⟨l, ?_, hname⟩, fun limit h => .inr (hlimit limit h)⟩
      show l ∈ libraries
      rw [hsplit]
      exact List.mem_append_right before List.mem_cons_self
    · cases hf

/-- A fault of a reading is one of the limits. -/
theorem fault_of_readAt (r : Reader) {fault : SettingFault}
    (hfault : (readAt ctx bits location r).fault? = some fault) : ctx.limits.Raise fault := by
  rcases ctx.readAt_cases bits location r with ⟨-, hread⟩ | ⟨-, -, stop, hstop, hread⟩ |
    ⟨-, -, -, libraries, reader, stop?, hread, -, htables⟩
  · rw [hread] at hfault
    cases hfault
  · rw [hread] at hfault
    cases stop with
    | aborted cause => cases hfault
    | fault found =>
      cases hfault
      have hlast := (ctx.descriptorsIn_follows r.data location).last
      rw [hstop] at hlast
      exact fault_of_descriptorAt r.data hlast
  · rw [hread] at hfault
    rcases stop? with _ | cause | found
    · cases hfault
    · cases hfault
    · cases hfault
      obtain ⟨before, l, behind, -, -, hl, -⟩ := htables
      exact fault_of_lookupIn r.data hl.2

end Context

/-! ## Warnings -/

theorem oneLine_abandonedWarning (count : Nat) (d : Descriptor) :
    OneLine (Context.abandonedWarning count d) := by
  have hcount : OneLine (toString count) := oneLine_of_plain (Wording.plain_natRepr count)
  have hhex : OneLine (Bytes.hexNumber d.nameRva) :=
    oneLine_of_plain (Wording.plain_hexNumber d.nameRva)
  unfold Context.abandonedWarning
  simp only [oneLine_append_iff, oneLine_toString_string, hcount, hhex, and_true]
  exact ⟨⟨⟨oneLine_ofList rfl, oneLine_ofList rfl⟩, oneLine_ofList rfl⟩, oneLine_ofList rfl⟩

/-- A warning about a name that several descriptors have takes one line if the name does. -/
theorem oneLine_repeatedWarning {name : String} (h : OneLine name) (count : Nat) :
    OneLine (repeatedWarning name count) := by
  have hcount (n : Nat) : OneLine n.repr := oneLine_of_plain (Wording.plain_natRepr n)
  unfold repeatedWarning
  simp +decide [h, hcount]

/-! ## Faults of the settings -/

/-- A limit of which the text and the kind take one line. -/
structure Limit.InLine (limit : Limit) : Prop where
  label : OneLine limit.label
  word : ∀ word, limit.kind = .other word → OneLine word

/-- The limits of an import directory take one line each. -/
structure Limits.InLine (limits : Limits) : Prop where
  libraries : limits.maxLibraries.InLine
  entries : limits.maxEntriesPerLibrary.InLine
  text : limits.maxTextLength.InLine

theorem SettingFault.oneLine_notComparable {operator word : String} (hoperator : OneLine operator)
    (hword : OneLine word) : OneLine (notComparable operator word).message := by
  unfold message
  simp only [oneLine_append_iff, oneLine_toString_string, hoperator, hword, and_true]
  exact ⟨⟨oneLine_ofList rfl, oneLine_ofList rfl⟩, oneLine_ofList rfl⟩

theorem SettingFault.oneLine_notAddable {word : String} (hword : OneLine word) :
    OneLine (notAddable word).message := by
  unfold message
  dsimp only
  split
  · simp only [oneLine_append_iff, oneLine_toString_string, hword, and_true]
    exact ⟨oneLine_ofList rfl, oneLine_ofList rfl⟩
  · simp only [oneLine_append_iff, oneLine_toString_string, hword, and_true]
    exact ⟨oneLine_ofList rfl, oneLine_ofList rfl⟩

theorem SettingFault.oneLine_notWhole : OneLine notWhole.message := by
  show OneLine "argument should be integer or None, not 'float'"
  exact oneLine_ofList rfl

namespace Limit

variable {limit : Limit}

/-- The fault of a comparison is told in one line. -/
theorem InLine.comparisonFault? (h : limit.InLine) {operator : String}
    (hoperator : OneLine operator) {fault : SettingFault}
    (hfault : limit.comparisonFault? operator = some fault) : OneLine fault.message := by
  rw [Limit.comparisonFault?] at hfault
  split at hfault
  · next word hkind =>
    cases hfault
    exact SettingFault.oneLine_notComparable hoperator (h.word word hkind)
  · cases hfault

/-- A budget with a fraction fails in one way. -/
theorem readTextWithin_eq_error {budget : Float} {fuel : Nat} {r : Reader} {consumed : Nat}
    {found : ByteArray} {fault : SettingFault}
    (h : (readTextWithin budget fuel r consumed found).1 = .error fault) : fault = .notWhole := by
  fun_induction readTextWithin budget fuel r consumed found with
  | case1 => cases h
  | case2 => cases h
  | case3 =>
    injection h with h
    exact h.symm
  | case4 => cases h
  | case5 => cases h
  | case6 fuel r consumed found left hleft hwhole got block stop hsome hgoes ih => exact ih h

/-- The fault of a text that cannot be read is told in one line. -/
theorem InLine.readText (h : limit.InLine) {r : Reader} {fault : SettingFault}
    (hfault : (limit.readText r).1 = .error fault) : OneLine fault.message := by
  rw [Limit.readText] at hfault
  split at hfault
  · cases hfault
  · rw [readTextWithin_eq_error hfault]
    exact SettingFault.oneLine_notWhole
  · next word hkind =>
    cases hfault
    exact SettingFault.oneLine_notAddable (h.word word hkind)

end Limit

/-- The fault of a reading is told in one line. -/
theorem Limits.InLine.raise {limits : Limits} (h : limits.InLine) {fault : SettingFault}
    (hfault : limits.Raise fault) : OneLine fault.message := by
  have hoperator : OneLine ">=" := oneLine_ofList rfl
  rcases hfault with hcompare | hcompare | ⟨r, hread⟩
  · exact h.libraries.comparisonFault? hoperator hcompare
  · exact h.entries.comparisonFault? hoperator hcompare
  · exact h.text.readText hread

/-! ## The whole reading -/

section

variable (r : Reader) (sections : SectionMap) (directories : List DataDirectory)
    (bits : Option Int) {limits : Limits}

theorem fault_of_read {fault : SettingFault}
    (hfault : (read r sections directories bits limits).fault? = some fault) :
    limits.Raise fault := by
  rw [read] at hfault
  split at hfault
  · cases hfault
  · split at hfault
    · cases hfault
    · cases hfault
    · exact Context.fault_of_readAt _ r hfault

/-- The failure and the warnings of a reading take one line each, if the limits do and every
library name does. -/
theorem read_oneLine (hlimits : limits.InLine)
    (hnames : ∀ l ∈ (read r sections directories bits limits).table.libraries, OneLine l.name) :
    (∀ f, (read r sections directories bits limits).table.error = some f → OneLine f.message)
      ∧ ∀ warning ∈ (read r sections directories bits limits).table.warnings,
        OneLine warning := by
  have htold {libraries : List Library} {cause : Cause} (h : cause.Tells limits libraries)
      (hnames : ∀ l ∈ libraries, OneLine l.name) : OneLine cause.message := by
    refine Cause.oneLine_message ?_ fun limit hlimit => ?_
    · rcases h.library with hnone | ⟨l, hl, hname⟩
      · rw [hnone]
        decide
      · rw [← hname]
        exact hnames l hl
    · rcases h.limit limit hlimit with rfl | rfl
      · exact hlimits.libraries.label
      · exact hlimits.entries.label
  constructor
  · rw [read] at hnames ⊢
    split at hnames
    · intro f hf
      cases hf
      exact oneLine_ofList rfl
    · split at hnames
      · next e _ =>
        intro f hf
        cases hf
        refine Cause.oneLine_message (c := .directoryUnreachable e) ?_ fun limit hlimit => ?_
        · show OneLine ""
          decide
        · cases hlimit
      · intro f hf
        cases hf
      · intro f hf
        obtain ⟨cause, rfl, htells⟩ := Context.error_readAt _ r hf
        exact htold htells hnames
  · intro warning hwarning
    rcases warning_cases hwarning with ⟨count, d, rfl⟩ | ⟨l, hl, count, rfl⟩
    · exact oneLine_abandonedWarning count d
    · exact oneLine_repeatedWarning (hnames l hl) count

end

end ImageImports.Import

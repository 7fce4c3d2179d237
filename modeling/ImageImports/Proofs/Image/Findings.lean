import ImageImports.Image.Diagnosis
import ImageImports.Proofs.Import.Warned

/-!
# Findings about an analysis of bytes are accepted

The texts of a finding are trimmed before they are measured, so a finding is refused when
its title or its description holds nothing but white space.  The program's own titles and
descriptions do not, and neither do the warnings that the reading of an import directory
leaves, since each of them begins with a word.

## Main results

* `Import.snug_of_mem_warnings` — the warnings of a reading have no white space at their ends, so
  none of them is blank.
* `Analysis.findings_ok` — the findings about an analysis without blank warnings are
  accepted.
* `Analysis.findings_eq` — findings whose texts trimming leaves alone are made as they were
  drafted.
-/

namespace ImageImports

/-! ## Texts that are not blank -/

namespace Text

/-- A text with a character that is no white space. -/
def NotBlank (s : String) : Prop := s.toList.any (fun c => !isWhiteSpace c) = true

instance (s : String) : Decidable (NotBlank s) := inferInstanceAs (Decidable (_ = true))

theorem mem_dropWhile {p : Char → Bool} {cs : List Char} {c : Char} (hc : c ∈ cs)
    (h : p c = false) : c ∈ cs.dropWhile p := by
  rw [← List.takeWhile_append_dropWhile (p := p) (l := cs), List.mem_append] at hc
  rcases hc with hc | hc
  · rw [List.mem_takeWhile_imp hc] at h
    cases h
  · exact hc

/-- Trimming leaves something of a text that is not blank. -/
theorem NotBlank.length_trim_pos {s : String} (h : NotBlank s) : 0 < (trim s).length := by
  obtain ⟨c, hc, hspace⟩ := List.any_eq_true.1 h
  have hblank : isWhiteSpace c = false := by simpa using hspace
  have hleft := mem_dropWhile hc hblank
  have hboth := mem_dropWhile (List.mem_reverse.2 hleft) hblank
  rw [trim, String.length_ofList, trimList]
  exact List.length_pos_of_mem (List.mem_reverse.2 hboth)

/-! ### Texts that trimming leaves alone -/

/-- A text that begins with a character other than white space. -/
def SnugLeft (s : String) : Prop := s.toList.head?.any (!isWhiteSpace ·) = true

/-- A text that ends with a character other than white space. -/
def SnugRight (s : String) : Prop := s.toList.getLast?.any (!isWhiteSpace ·) = true

instance (s : String) : Decidable (SnugLeft s) := inferInstanceAs (Decidable (_ = true))

instance (s : String) : Decidable (SnugRight s) := inferInstanceAs (Decidable (_ = true))

/-- A text without white space at its ends, and not empty. -/
structure Snug (s : String) : Prop where
  left : SnugLeft s
  right : SnugRight s

instance (s : String) : Decidable (Snug s) :=
  decidable_of_iff (SnugLeft s ∧ SnugRight s) ⟨fun h => ⟨h.1, h.2⟩, fun h => ⟨h.left, h.right⟩⟩

/-- A literal is the text of its characters, so what its ends are is read off the list. -/
theorem SnugLeft.ofList {cs : List Char} (h : cs.head?.any (!isWhiteSpace ·) = true) :
    SnugLeft (String.ofList cs) := by
  rw [SnugLeft, String.toList_ofList]
  exact h

theorem SnugRight.ofList {cs : List Char} (h : cs.getLast?.any (!isWhiteSpace ·) = true) :
    SnugRight (String.ofList cs) := by
  rw [SnugRight, String.toList_ofList]
  exact h

theorem Snug.ofList {cs : List Char} (hleft : cs.head?.any (!isWhiteSpace ·) = true)
    (hright : cs.getLast?.any (!isWhiteSpace ·) = true) : Snug (String.ofList cs) :=
  ⟨.ofList hleft, .ofList hright⟩

theorem SnugLeft.append {s : String} (h : SnugLeft s) (t : String) : SnugLeft (s ++ t) := by
  rw [SnugLeft, Option.any_eq_true] at h ⊢
  obtain ⟨c, hc, hink⟩ := h
  refine ⟨c, ?_, hink⟩
  rw [String.toList_append, List.head?_append, hc]
  rfl

theorem SnugRight.append {t : String} (h : SnugRight t) (s : String) : SnugRight (s ++ t) := by
  rw [SnugRight, Option.any_eq_true] at h ⊢
  obtain ⟨c, hc, hink⟩ := h
  refine ⟨c, ?_, hink⟩
  rw [String.toList_append, List.getLast?_append, hc]
  rfl

theorem dropWhile_eq_self {p : Char → Bool} {cs : List Char} (h : cs.head?.any (!p ·) = true) :
    cs.dropWhile p = cs := by
  cases cs with
  | nil => rfl
  | cons c rest =>
    rw [List.head?_cons, Option.any_some, Bool.not_eq_true'] at h
    exact List.dropWhile_cons_of_neg (by rw [h]; exact Bool.false_ne_true)

theorem Snug.trim_eq {s : String} (h : Snug s) : trim s = s := by
  have hleft : s.toList.dropWhile isWhiteSpace = s.toList := dropWhile_eq_self h.left
  have hright : s.toList.reverse.dropWhile isWhiteSpace = s.toList.reverse := by
    refine dropWhile_eq_self ?_
    rw [List.head?_reverse]
    exact h.right
  rw [trim, trimList, hleft, hright, List.reverse_reverse, String.ofList_toList]

/-- Text between wording is snug, whatever it is. -/
theorem Snug.around {s t : String} (hs : Snug s) (ht : Snug t) (between : String) :
    Snug (s ++ between ++ t) where
  left := (hs.left.append between).append t
  right := ht.right.append (s ++ between)

theorem Snug.notBlank {s : String} (h : Snug s) : NotBlank s := by
  obtain ⟨c, hc, hink⟩ := (Option.any_eq_true _ _).1 h.left
  exact List.any_eq_true.2 ⟨c, List.mem_of_head? hc, hink⟩

end Text

open Text (NotBlank Snug SnugLeft SnugRight)

/-! ## Findings -/

namespace Finding

/-- A finding with a title and a description that pass their checks. -/
structure Acceptable (f : Finding) : Prop where
  title : NotBlank f.title
  titleLength : f.title.length ≤ maxTitle
  description : NotBlank f.description

/-- A finding that passes its checks is made with its texts trimmed. -/
theorem Acceptable.check_eq {f : Finding} (h : f.Acceptable) :
    f.check = .ok { f with
      title := Text.trim f.title
      description := Text.trim f.description
      evidence := Text.trim f.evidence
      recommendation := Text.trim f.recommendation
      references := f.references.map Text.trim } := by
  have htitle : checkTitle f.title = .ok (Text.trim f.title) := by
    have hpos := h.title.length_trim_pos
    have hle := Text.length_trim_le f.title
    have hmost := h.titleLength
    have hlong :
        ¬ (some maxTitle).any (fun n => decide (n < (Text.trim f.title).length)) =
          true := by
      rw [Option.any_some, decide_eq_true_iff]
      omega
    rw [checkTitle, Schema.withLength, if_neg (by omega), if_neg hlong]
  have hdescription : checkDescription f.description = .ok (Text.trim f.description) := by
    have hpos := h.description.length_trim_pos
    rw [checkDescription, Schema.withLength, if_neg (by omega), Option.any_none,
      if_neg Bool.false_ne_true]
  rw [check, htitle, hdescription]
  rfl

/-- A finding that is made as it was drafted. -/
structure Tidy (f : Finding) : Prop where
  title : Snug f.title
  titleLength : f.title.length ≤ maxTitle
  description : Snug f.description
  evidence : Text.trim f.evidence = f.evidence
  recommendation : Text.trim f.recommendation = f.recommendation
  references : f.references.map Text.trim = f.references

theorem Tidy.acceptable {f : Finding} (h : f.Tidy) : f.Acceptable :=
  ⟨h.title.notBlank, h.titleLength, h.description.notBlank⟩

theorem Tidy.check_eq {f : Finding} (h : f.Tidy) : f.check = .ok f := by
  rw [h.acceptable.check_eq, h.title.trim_eq, h.description.trim_eq, h.evidence,
    h.recommendation, h.references]

end Finding

namespace Analysis

theorem checkAll_ok {fs : List Finding} (h : ∀ f ∈ fs, f.Acceptable) :
    ∃ gs, checkAll fs = .ok gs := by
  induction fs with
  | nil => exact ⟨[], rfl⟩
  | cons f rest ih =>
    have hg := (h f List.mem_cons_self).check_eq
    obtain ⟨gs, hgs⟩ := ih fun f' hf' => h f' (List.mem_cons_of_mem f hf')
    rw [checkAll, hg]
    simp only [Schema.Checked.bind, hgs, Schema.Checked.map]
    exact ⟨_, rfl⟩

theorem checkAll_eq {fs : List Finding} (h : ∀ f ∈ fs, f.Tidy) : checkAll fs = .ok fs := by
  induction fs with
  | nil => rfl
  | cons f rest ih =>
    have hrest := ih fun g hg => h g (List.mem_cons_of_mem f hg)
    rw [checkAll, (h f List.mem_cons_self).check_eq, Schema.Checked.bind, hrest]
    rfl

/-! ### The findings that are drafted -/

theorem snug_compact_object (fields : List (String × Json)) :
    Snug (Json.object fields).compact := by
  rw [Json.compact]
  exact Snug.around (.ofList (by decide) (by decide)) (.ofList (by decide) (by decide)) _

theorem snug_advice (kind : Import.FailureKind) : Snug (advice kind) := by
  cases kind
  case directoryUnreachable | tableTooLarge | possibleLoop =>
    exact ⟨(SnugLeft.ofList (by decide)).append _, (SnugRight.ofList (by decide)).append _⟩
  all_goals exact Snug.ofList (by decide) (by decide)

theorem trim_references : references.map Text.trim = references := by
  have hsnug : Snug "Microsoft. (2024). PE Format -- The .idata Section. Microsoft Learn." :=
    .ofList (by decide) (by decide)
  rw [references, List.map_cons, hsnug.trim_eq, List.map_nil]

theorem tidy_notAnImage (info : ImageInfo) : (notAnImage info).Tidy where
  title := Snug.ofList (by decide) (by decide)
  titleLength := show "Not a PE image".length ≤ Finding.maxTitle by decide
  description := Snug.ofList (by decide) (by decide)
  evidence := (snug_compact_object _).trim_eq
  recommendation := (Snug.ofList (by decide) (by decide)).trim_eq
  references := trim_references

theorem tidy_noImports : noImports.Tidy where
  title := Snug.ofList (by decide) (by decide)
  titleLength := by decide
  description :=
    ⟨(SnugLeft.ofList (by decide)).append _, (SnugRight.ofList (by decide)).append _⟩
  evidence := rfl
  recommendation := rfl
  references := trim_references

theorem tidy_abortedImports (table : Import.Table) (error : Import.Failure) :
    (abortedImports table error).Tidy where
  title := Snug.ofList (by decide) (by decide)
  titleLength := show "Import table parsing aborted".length ≤ Finding.maxTitle by decide
  description := by
    rw [abortedImports]
    constructor
    · iterate 7 refine SnugLeft.append ?_ _
      exact .ofList (by decide)
    · iterate 2 refine SnugRight.append ?_ _
      exact .ofList (by decide)
  evidence := (snug_compact_object _).trim_eq
  recommendation := (snug_advice error.kind).trim_eq
  references := trim_references

theorem tidy_anomaly {warning : String} (h : Snug warning) : (anomaly warning).Tidy where
  title := Snug.ofList (by decide) (by decide)
  titleLength := show "Import table anomaly".length ≤ Finding.maxTitle by decide
  description := h
  evidence := rfl
  recommendation := rfl
  references := trim_references

theorem acceptable_anomaly {warning : String} (h : NotBlank warning) :
    (anomaly warning).Acceptable where
  title := (Snug.ofList (by decide) (by decide)).notBlank
  titleLength := show "Import table anomaly".length ≤ Finding.maxTitle by decide
  description := h

/-- What holds of every finding that can be drafted about an analysis holds of those that are. -/
theorem forall_mem_drafts {a : Analysis} {p : Finding → Prop} (hnot : p (notAnImage a.info))
    (hnone : p noImports) (haborted : ∀ error, p (abortedImports a.imports error))
    (hwarned : ∀ warning ∈ a.imports.warnings, p (anomaly warning)) : ∀ f ∈ a.drafts, p f := by
  intro f hf
  rw [drafts] at hf
  split at hf
  · rcases List.mem_append.1 hf with hf | hf
    · rcases List.mem_append.1 hf with hf | hf
      · split at hf
        · cases hf
        · rw [List.mem_singleton.1 hf]
          exact hnone
      · obtain ⟨error, -, rfl⟩ := Option.map_eq_some_iff.1 (Option.mem_toList.1 hf)
        exact haborted error
    · obtain ⟨warning, hwarning, rfl⟩ := List.mem_map.1 hf
      exact hwarned warning hwarning
  · rw [List.mem_singleton.1 hf]
    exact hnot

/-- The findings about an analysis whose warnings are not blank pass their checks. -/
theorem findings_ok {a : Analysis}
    (h : ∀ warning ∈ a.imports.warnings, NotBlank warning) :
    ∃ findings, a.findings = .ok findings :=
  checkAll_ok (forall_mem_drafts (tidy_notAnImage a.info).acceptable tidy_noImports.acceptable
    (fun error => (tidy_abortedImports a.imports error).acceptable)
    fun warning hwarning => acceptable_anomaly (h warning hwarning))

/-- Where the warnings are snug, findings are made as they were drafted. -/
theorem findings_eq {a : Analysis} (h : ∀ warning ∈ a.imports.warnings, Snug warning) :
    a.findings = .ok a.drafts :=
  checkAll_eq (forall_mem_drafts (tidy_notAnImage a.info) tidy_noImports
    (tidy_abortedImports a.imports) fun warning hwarning => tidy_anomaly (h warning hwarning))

end Analysis

/-! ## Warnings of a reading -/

namespace Import

theorem snug_abandonedWarning (count : Nat) (d : Descriptor) :
    Snug (Context.abandonedWarning count d) := by
  unfold Context.abandonedWarning
  constructor
  · iterate 6 refine SnugLeft.append ?_ _
    exact .ofList (by decide)
  · refine SnugRight.append ?_ _
    exact .ofList (by decide)

theorem snug_repeatedWarning (name : String) (count : Nat) : Snug (repeatedWarning name count) := by
  unfold repeatedWarning
  constructor
  · iterate 4 refine SnugLeft.append ?_ _
    exact .ofList (by decide)
  · refine SnugRight.append ?_ _
    exact .ofList (by decide)

/-- Every warning of a reading begins and ends with wording, whatever the bytes and the settings
are. -/
theorem snug_of_mem_warnings {r : Reader} {sections : SectionMap}
    {directories : List DataDirectory} {bits : Option Int} {limits : Limits} {warning : String}
    (h : warning ∈ (read r sections directories bits limits).table.warnings) : Snug warning := by
  rcases warning_cases h with ⟨count, d, rfl⟩ | ⟨l, -, count, rfl⟩
  · exact snug_abandonedWarning count d
  · exact snug_repeatedWarning l.name count

end Import

end ImageImports

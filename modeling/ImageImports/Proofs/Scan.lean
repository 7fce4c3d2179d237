import ImageImports.Scan
import Mathlib.Algebra.BigOperators.Group.List.Basic
import Mathlib.Algebra.Ring.Nat

/-!
# Accounts stay consistent

An account is built up in steps.  Findings are added at its end or put in the place of all others,
attributes are set to checked values, and the account is ended, more than once if need be.  What is
told about the findings, how many there are of each severity and which severity is the gravest, is
drawn from the findings whenever it is asked for, so it fits them in every account.  What every step
has to keep is that the account says who made it and about which file, and that its findings are
such as could have been made (`Valid`).

A step that is refused changes nothing.  Ending an account is two steps in one: the account ends,
and then gets its summary.  A summary that is no text is refused when the account has ended already.

## Main results

* `derived` — what is told about the findings of an account fits them.
* `Valid.step`, `Valid.run` — every step keeps an account valid, and so does a sequence of steps.
* `valid_of_ofFields` — an account that is read is valid.
* `step_finalize_of_refused` — what an end leaves whose summary is refused.
* `takes` — what every step changes and what it refuses.
* `run_consistent` — all of this together, after any steps.
-/

namespace ImageImports

open Schema (Checked)
open Calendar (Instant)

/-! ## Readings that succeed -/

namespace Schema

variable {α β : Type}

theorem Checked.of_seq {f : Checked (α → β)} {a : Checked α} {b : β} (h : f <*> a = .ok b) :
    ∃ g x, f = .ok g ∧ a = .ok x ∧ g x = b :=
  Checked.seq_ok_iff.1 h

theorem Checked.of_map {f : α → β} {a : Checked α} {b : β} (h : a.map f = .ok b) :
    ∃ x, a = .ok x ∧ f x = b := by
  cases a with
  | ok x => exact ⟨x, rfl, by injection h⟩
  | faults fs => cases h

theorem Checked.of_bind {a : Checked α} {f : α → Checked β} {b : β} (h : a.bind f = .ok b) :
    ∃ x, a = .ok x ∧ f x = .ok b := by
  cases a with
  | ok x => exact ⟨x, rfl, h⟩
  | faults fs => cases h

theorem Checked.of_within {a : Checked α} {step : String} {x : α} (h : a.within step = .ok x) :
    a = .ok x := by
  cases a with
  | ok y => exact h
  | faults fs => cases h

variable {fields : List (String × Json)} {name : String} {read : Json → Checked α} {a : α}

/-- A required field holds a value that was read. -/
theorem of_required (h : required fields name read = .ok a) : ∃ j, read j = .ok a := by
  rw [required] at h
  split at h
  · next j _ => exact ⟨j, Checked.of_within h⟩
  · cases h

/-- A field holds a value that was read, or is not there. -/
theorem of_field {default : α} (h : field fields name default read = .ok a) :
    a = default ∨ ∃ j, read j = .ok a := by
  rw [field] at h
  split at h
  · next j _ => exact .inr ⟨j, Checked.of_within h⟩
  · injection h with h
    exact .inl h.symm

/-- Every member that a traversal gives was read. -/
theorem of_traverse {items : List Json} {index : Nat} {as : List α}
    (h : Checked.traverse read index items = .ok as) : ∀ a ∈ as, ∃ j, read j = .ok a := by
  induction items generalizing index as with
  | nil =>
    cases h
    exact fun a ha => absurd ha List.not_mem_nil
  | cons item rest ih =>
    obtain ⟨g, more, hitem, hmore, rfl⟩ := Checked.seq_ok_iff.1 h
    obtain ⟨a, ha, rfl⟩ := Checked.of_map hitem
    exact List.forall_mem_cons.2 ⟨⟨item, Checked.of_within ha⟩, ih hmore⟩

/-- Every member of a list was read. -/
theorem of_list {as : List α} {j : Json} (h : list read j = .ok as) :
    ∀ a ∈ as, ∃ j, read j = .ok a := by
  cases j with
  | list items => exact of_traverse h
  | _ => cases h

/-- What is measured has the length that is asked for. -/
theorem of_withLength {least : Nat} {most? : Option Nat} {s t : String}
    (h : withLength least most? s = .ok t) :
    least ≤ t.length ∧ ∀ most ∈ most?, t.length ≤ most := by
  rw [withLength] at h
  split at h
  · cases h
  · next hleast =>
    split at h
    · cases h
    · next hmost =>
      injection h with h
      subst h
      refine ⟨Nat.le_of_not_lt hleast, fun most hmem => Nat.le_of_not_lt fun hlt => hmost ?_⟩
      rw [Option.mem_def.1 hmem]
      exact decide_eq_true hlt

end Schema

open Schema

/-! ## Findings -/

/-- A finding as it can be made: its title and its description have an admitted length. -/
structure Finding.Sound (f : Finding) : Prop where
  title : 1 ≤ f.title.length ∧ f.title.length ≤ Finding.maxTitle
  description : 1 ≤ f.description.length

theorem Finding.sound_of_ofFields {fields : List (String × Json)} {f : Finding}
    (h : Finding.ofFields fields = .ok f) : f.Sound := by
  obtain ⟨_, references, hmore, -, rfl⟩ := Checked.of_seq h
  obtain ⟨_, recommendation, hrest, -, rfl⟩ := Checked.of_seq hmore
  obtain ⟨_, evidence, htexts, -, rfl⟩ := Checked.of_seq hrest
  obtain ⟨_, description, hhead, hdescription, rfl⟩ := Checked.of_seq htexts
  obtain ⟨_, title, hseverity, htitle, rfl⟩ := Checked.of_seq hhead
  obtain ⟨severity, -, rfl⟩ := Checked.of_map hseverity
  obtain ⟨_, htitle⟩ := of_required htitle
  obtain ⟨_, -, htitle⟩ := Checked.of_bind htitle
  obtain ⟨_, hdescription⟩ := of_required hdescription
  obtain ⟨_, -, hdescription⟩ := Checked.of_bind hdescription
  obtain ⟨hleast, hmost⟩ := of_withLength htitle
  exact ⟨⟨hleast, hmost _ rfl⟩, (of_withLength hdescription).1⟩

theorem Finding.sound_of_decode {j : Json} {f : Finding} (h : Finding.decode j = .ok f) :
    f.Sound := by
  obtain ⟨fields, -, h⟩ := Checked.of_bind h
  exact Finding.sound_of_ofFields h

/-- The place of a severity in the order, zero for the gravest. -/
def Severity.rank (severity : Severity) : Nat := Severity.all.idxOf severity

namespace Scan

/-! ## What is told about the findings -/

/-- How many findings there are of a severity. -/
def tally (findings : List Finding) (severity : Severity) : Nat :=
  (findings.filter (·.severity = severity)).length

/-- What is told about the findings of an account fits them. -/
structure Derived (s : Scan) : Prop where
  order : s.severityCounts.map (·.1) = [.critical, .high, .medium, .low, .info]
  counts : ∀ severity n, (severity, n) ∈ s.severityCounts ↔ n = tally s.findings severity
  total : (s.severityCounts.map (·.2)).sum = s.findings.length
  highest : s.highestSeverity? = (s.severityCounts.find? fun (_, n) => n ≠ 0).map (·.1)
  gravest : ∀ severity, s.highestSeverity? = some severity ↔
    (∃ f ∈ s.findings, f.severity = severity)
      ∧ ∀ f ∈ s.findings, severity.rank ≤ f.severity.rank
  none : s.highestSeverity? = none ↔ s.findings = []

theorem mem_severityCounts_iff {s : Scan} {severity : Severity} {n : Nat} :
    (severity, n) ∈ s.severityCounts ↔ n = tally s.findings severity := by
  have hall : severity ∈ Severity.all := by cases severity <;> decide
  rw [severityCounts, List.mem_map, tally, ← List.countP_eq_length_filter]
  constructor
  · rintro ⟨_, -, heq⟩
    cases heq
    rfl
  · rintro rfl
    exact ⟨severity, hall, rfl⟩

/-- Every finding is counted under its severity, and nowhere else. -/
theorem sum_severityCounts (s : Scan) :
    (s.severityCounts.map (·.2)).sum = s.findings.length := by
  have hsum (findings : List Finding) :
      (Severity.all.map fun severity => findings.countP (·.severity = severity)).sum =
        findings.length := by
    induction findings with
    | nil => rfl
    | cons f rest ih =>
      simp only [Severity.all, List.map_cons, List.map_nil, List.sum_cons, List.sum_nil,
        List.countP_cons, List.length_cons] at ih ⊢
      cases f.severity <;> simp <;> omega
  rw [severityCounts, List.map_map]
  exact hsum s.findings

theorem any_severity_iff {findings : List Finding} {severity : Severity} :
    findings.any (·.severity = severity) = true ↔ ∃ f ∈ findings, f.severity = severity := by
  simp [List.any_eq_true]

/-- The first member of a list that passes a test is the one that no other passing member stands in
front of. -/
theorem find?_eq_some_iff_idxOf {α : Type} [DecidableEq α] {p : α → Bool} {as : List α} {a : α} :
    as.find? p = some a ↔
      a ∈ as ∧ p a = true ∧ ∀ b, as.idxOf b < as.idxOf a → p b = false := by
  induction as with
  | nil => simp
  | cons c rest ih =>
    have hfirst : (c :: rest).idxOf c = 0 := List.idxOf_cons_self
    have hnext {b : α} (hb : b ≠ c) : (c :: rest).idxOf b = rest.idxOf b + 1 :=
      List.idxOf_cons_ne rest hb.symm
    cases hc : p c with
    | true =>
      rw [List.find?_cons_of_pos hc]
      constructor
      · rintro heq
        cases heq
        exact ⟨List.mem_cons_self, hc, fun b hb => absurd hb (by omega)⟩
      · rintro ⟨-, -, hbefore⟩
        by_cases hac : a = c
        · rw [hac]
        · have hfalse := hbefore c (by rw [hfirst, hnext hac]; omega)
          rw [hc] at hfalse
          cases hfalse
    | false =>
      rw [List.find?_cons_of_neg (by rw [hc]; exact Bool.false_ne_true), ih]
      by_cases hac : a = c
      · subst hac
        simp [hc]
      · rw [List.mem_cons, or_iff_right hac]
        refine and_congr_right fun _ => and_congr_right fun _ => ?_
        refine forall_congr' fun b => ?_
        by_cases hb : b = c
        · rw [hb, hc]
          exact iff_of_true (fun _ => rfl) (fun _ => rfl)
        · rw [hnext hb, hnext hac, Nat.add_lt_add_iff_right]

/-- The gravest severity is that of a finding which no graver one stands beside. -/
theorem highestSeverity?_eq_some_iff {s : Scan} {severity : Severity} :
    s.highestSeverity? = some severity ↔ (∃ f ∈ s.findings, f.severity = severity)
      ∧ ∀ f ∈ s.findings, severity.rank ≤ f.severity.rank := by
  have hall : severity ∈ Severity.all := by cases severity <;> decide
  have hgraver : (∀ other, Severity.all.idxOf other < Severity.all.idxOf severity →
      s.findings.any (·.severity = other) = false)
      ↔ ∀ f ∈ s.findings, severity.rank ≤ f.severity.rank := by
    constructor
    · intro h f hf
      refine Nat.le_of_not_lt fun hlt => ?_
      have hnone := h f.severity hlt
      rw [any_severity_iff.2 ⟨f, hf, rfl⟩] at hnone
      cases hnone
    · intro h other hlt
      refine Bool.eq_false_iff.2 fun hany => ?_
      obtain ⟨f, hf, rfl⟩ := any_severity_iff.1 hany
      exact absurd (h f hf) (Nat.not_le_of_lt hlt)
  rw [highestSeverity?, find?_eq_some_iff_idxOf, and_iff_right hall, any_severity_iff, hgraver]

theorem highestSeverity?_eq_none_iff {s : Scan} :
    s.highestSeverity? = none ↔ s.findings = [] := by
  rw [highestSeverity?, List.find?_eq_none]
  constructor
  · intro h
    refine List.eq_nil_iff_forall_not_mem.2 fun f hf => ?_
    have hmem : f.severity ∈ Severity.all := by cases f.severity <;> decide
    exact h f.severity hmem (any_severity_iff.2 ⟨f, hf, rfl⟩)
  · intro h severity _ hany
    obtain ⟨f, hf, -⟩ := any_severity_iff.1 hany
    rw [h] at hf
    cases hf

/-- The gravest severity is the first one that is counted. -/
theorem highestSeverity?_eq_find? (s : Scan) :
    s.highestSeverity? = (s.severityCounts.find? fun (_, n) => n ≠ 0).map (·.1) := by
  rw [highestSeverity?, severityCounts, List.find?_map, Option.map_map]
  have hsame : (fun severity => s.findings.any (·.severity = severity)) =
      (fun (x : Severity × Nat) => decide (x.2 ≠ 0)) ∘
        fun severity => (severity, s.findings.countP (·.severity = severity)) := by
    funext severity
    refine Bool.eq_iff_iff.2 ?_
    rw [any_severity_iff, Function.comp_apply, decide_eq_true_iff, ← Nat.pos_iff_ne_zero,
      List.countP_pos_iff]
    simp only [decide_eq_true_iff]
  rw [hsame]
  exact (Option.map_id' (x := List.find? _ Severity.all)).symm

theorem derived (s : Scan) : s.Derived where
  order := s.severityCounts_map_fst
  counts _ _ := mem_severityCounts_iff
  total := s.sum_severityCounts
  highest := s.highestSeverity?_eq_find?
  gravest _ := highestSeverity?_eq_some_iff
  none := highestSeverity?_eq_none_iff

/-! ## What every step keeps -/

/-- An account that says who made it and about which file, with findings that can be made. -/
structure Valid (s : Scan) : Prop where
  toolName : s.toolName ≠ ""
  target : s.target ≠ ""
  findings : ∀ f ∈ s.findings, f.Sound

theorem ne_empty_of_nonEmpty {j : Json} {t : String} (h : nonEmpty j = .ok t) : t ≠ "" := by
  obtain ⟨s, -, h⟩ := Checked.of_bind h
  rintro rfl
  exact absurd (of_withLength h).1 (by decide)

/-- An account that is read is valid. -/
theorem valid_of_ofFields {now : Instant} {fields : List (String × Json)} {s : Scan}
    (h : ofFields now fields = .ok s) : s.Valid := by
  obtain ⟨_, kept, hmore, -, rfl⟩ := Checked.of_seq h
  obtain ⟨_, summary, hrest, -, rfl⟩ := Checked.of_seq hmore
  obtain ⟨_, findings, htimes, hfindings, rfl⟩ := Checked.of_seq hrest
  obtain ⟨_, success, hended, -, rfl⟩ := Checked.of_seq htimes
  obtain ⟨_, ended?, hstarted, -, rfl⟩ := Checked.of_seq hended
  obtain ⟨_, started, hnames, -, rfl⟩ := Checked.of_seq hstarted
  obtain ⟨_, target, hfirst, htarget, rfl⟩ := Checked.of_seq hnames
  obtain ⟨toolName, htool, rfl⟩ := Checked.of_map hfirst
  obtain ⟨_, htool⟩ := of_required htool
  obtain ⟨_, htarget⟩ := of_required htarget
  refine ⟨ne_empty_of_nonEmpty htool, ne_empty_of_nonEmpty htarget, fun f hf => ?_⟩
  rcases of_field hfindings with rfl | ⟨_, hlist⟩
  · cases hf
  · obtain ⟨_, hdecode⟩ := of_list hlist f hf
    exact Finding.sound_of_decode hdecode

/-- An attribute that is set keeps an account valid. -/
theorem Valid.set {s t : Scan} {name : String} {value : Json} (hs : s.Valid)
    (h : s.set name value = .ok t) : t.Valid := by
  simp only [Scan.set] at h
  split at h
  · cases h
  · split at h
    · next hchecked =>
      cases h
      have hread := Checked.of_within hchecked
      split at hread
      · obtain ⟨toolName, htool, rfl⟩ := Checked.of_map hread
        exact ⟨ne_empty_of_nonEmpty htool, hs.target, hs.findings⟩
      · obtain ⟨target, htarget, rfl⟩ := Checked.of_map hread
        exact ⟨hs.toolName, ne_empty_of_nonEmpty htarget, hs.findings⟩
      · obtain ⟨started, -, rfl⟩ := Checked.of_map hread
        exact ⟨hs.toolName, hs.target, hs.findings⟩
      · obtain ⟨ended?, -, rfl⟩ := Checked.of_map hread
        exact ⟨hs.toolName, hs.target, hs.findings⟩
      · obtain ⟨success, -, rfl⟩ := Checked.of_map hread
        exact ⟨hs.toolName, hs.target, hs.findings⟩
      · obtain ⟨findings, hfindings, rfl⟩ := Checked.of_map hread
        refine ⟨hs.toolName, hs.target, fun f hf => ?_⟩
        obtain ⟨_, hdecode⟩ := of_list hfindings f hf
        exact Finding.sound_of_decode hdecode
      · obtain ⟨summary, -, rfl⟩ := Checked.of_map hread
        exact ⟨hs.toolName, hs.target, hs.findings⟩
      · obtain ⟨metadata, -, rfl⟩ := Checked.of_map hread
        exact ⟨hs.toolName, hs.target, hs.findings⟩
      · split at hread
        · cases hread
          exact hs
        · cases hread
    · cases h

/-- Every step keeps an account valid, whether it is taken or refused. -/
theorem Valid.step {s : Scan} (hs : s.Valid) (now : Instant) (step : Step) :
    (s.step now step).1.Valid := by
  cases step with
  | add fields =>
    rw [Scan.step]
    split
    · next f hf =>
      refine ⟨hs.toolName, hs.target, fun g hg => ?_⟩
      rcases List.mem_append.1 hg with hg | hg
      · exact hs.findings g hg
      · rw [List.mem_singleton.1 hg]
        exact Finding.sound_of_ofFields hf
    · exact hs
  | set name value =>
    rw [Scan.step]
    split
    · next hset => exact hs.set hset
    · exact hs
  | finalize summary =>
    rw [Scan.step]
    split <;> exact ⟨hs.toolName, hs.target, hs.findings⟩

/-- What steps leave of an account, each of them taken at its own time. -/
def run (s : Scan) : List (Instant × Step) → Scan
  | [] => s
  | (now, step) :: rest => (s.step now step).1.run rest

/-- Any steps keep an account valid. -/
theorem Valid.run {s : Scan} (hs : s.Valid) (steps : List (Instant × Step)) :
    (s.run steps).Valid := by
  induction steps generalizing s with
  | nil => exact hs
  | cons first rest ih => exact ih (hs.step first.1 first.2)

/-! ## Steps that are refused -/

/-- A finding or a value that is refused changes nothing. -/
theorem step_of_refused {s : Scan} {now : Instant} {step : Step}
    (hstep : ∀ summary, step ≠ .finalize summary) (h : (s.step now step).2 ≠ none) :
    (s.step now step).1 = s := by
  cases step with
  | add fields =>
    rw [Scan.step] at h ⊢
    split
    · next hf =>
      rw [hf] at h
      exact absurd rfl h
    · rfl
  | set name value =>
    rw [Scan.step] at h ⊢
    split
    · next hset =>
      rw [hset] at h
      exact absurd rfl h
    · rfl
  | finalize summary => exact absurd rfl (hstep summary)

/-- An account that ends is refused its summary when that is no text. -/
theorem step_finalize_of_refused (s : Scan) (now : Instant) {summary : Json}
    (hnull : summary ≠ .null) (htext : ∀ t, summary ≠ .text t) :
    (s.step now (.finalize summary)).2 ≠ none
      ∧ (s.step now (.finalize summary)).1 = { s with ended? := some now } := by
  cases summary with
  | null => exact absurd rfl hnull
  | text t => exact absurd rfl (htext t)
  | _ => exact ⟨by rintro ⟨⟩, rfl⟩

/-! ## Summaries -/

/-- What a summary lists: how many findings there are of each severity that is counted. -/
def listing (findings : List Finding) (counted : List (Severity × Nat)) : String :=
  if findings = [] then "none"
  else ", ".intercalate (counted.map fun (severity, n) => s!"{severity.word}: {n}")

/-- A summary that tells how many findings there are, and how many of each severity there is one
of, the gravest first. -/
def Tells (findings : List Finding) (summary : String) : Prop :=
  ∃ counted : List (Severity × Nat),
    (counted.map (·.1)).Sublist [.critical, .high, .medium, .low, .info]
      ∧ (∀ severity n, (severity, n) ∈ counted ↔ n = tally findings severity ∧ n ≠ 0)
      ∧ summary =
        s!"Analysis complete. Findings: {findings.length} ({listing findings counted})"

/-- The summary drawn from the findings tells them. -/
theorem tells_defaultSummary (s : Scan) : Tells s.findings s.defaultSummary := by
  have hmem (severity : Severity) (n : Nat) :
      (severity, n) ∈ s.severityCounts.filter (fun (_, n) => 0 < n)
        ↔ n = tally s.findings severity ∧ n ≠ 0 := by
    rw [List.mem_filter, mem_severityCounts_iff, decide_eq_true_iff, Nat.pos_iff_ne_zero]
  -- Nothing is counted exactly where there are no findings.
  have hnone : s.severityCounts.filter (fun (_, n) => 0 < n) = [] ↔ s.findings = [] := by
    rw [List.eq_nil_iff_forall_not_mem]
    constructor
    · intro h
      refine List.eq_nil_iff_forall_not_mem.2 fun f hf => ?_
      refine h (f.severity, tally s.findings f.severity) ((hmem _ _).2 ⟨rfl, ?_⟩)
      exact Nat.ne_of_gt (List.length_pos_of_mem (List.mem_filter.2 ⟨hf, decide_eq_true rfl⟩))
    · rintro h ⟨severity, n⟩ hcounted
      obtain ⟨rfl, hpos⟩ := (hmem severity n).1 hcounted
      exact hpos (by rw [h]; rfl)
  refine ⟨s.severityCounts.filter fun (_, n) => 0 < n, ?_, hmem, ?_⟩
  · have horder := s.severityCounts_map_fst
    rw [Severity.all] at horder
    rw [← horder]
    exact List.filter_sublist.map _
  · have hempty : ((s.severityCounts.filter fun (_, n) => 0 < n).map fun (severity, n) =>
        s!"{severity.word}: {n}").isEmpty = true ↔ s.findings = [] := by
      rw [List.isEmpty_map, List.isEmpty_iff, hnone]
    unfold defaultSummary listing
    simp only [hempty]

/-! ## Any steps -/

/-- What one step does to an account. -/
structure Takes (s : Scan) (now : Instant) (step : Step) : Prop where
  /-- A refused finding and a refused value change nothing. -/
  refused : (∀ summary, step ≠ .finalize summary) → (s.step now step).2 ≠ none →
    (s.step now step).1 = s
  /-- A refused summary is no text, and changes nothing but that the account has ended. -/
  ended : ∀ summary, step = .finalize summary → (s.step now step).2 ≠ none →
    (summary ≠ .null ∧ ∀ t, summary ≠ .text t)
      ∧ (s.step now step).1 = { s with ended? := some now }
  /-- A summary that is not given tells the findings. -/
  untold : step = .finalize .null →
    (s.step now step).2 = none
      ∧ ∃ summary, Tells s.findings summary
        ∧ (s.step now step).1 = { s with ended? := some now, summary }

theorem takes (s : Scan) (now : Instant) (step : Step) : s.Takes now step where
  refused := step_of_refused
  ended := by
    rintro summary rfl hrefused
    have htext : summary ≠ .null ∧ ∀ t, summary ≠ .text t := by
      refine ⟨?_, fun t => ?_⟩
      · rintro rfl
        exact hrefused rfl
      · rintro rfl
        exact hrefused rfl
    exact ⟨htext, (step_finalize_of_refused s now htext.1 htext.2).2⟩
  untold := by
    rintro rfl
    exact ⟨rfl, s.defaultSummary, s.tells_defaultSummary, rfl⟩

/-- **Accounts stay consistent**: after any steps, taken or refused, an account is valid, what is
told about its findings fits them, and the next step changes nothing if it is refused, except that
an account ends also where its summary is no text. -/
theorem run_consistent {s : Scan} (h : s.Valid) (steps : List (Instant × Step)) :
    (s.run steps).Valid ∧ (s.run steps).Derived
      ∧ ∀ now step, (s.run steps).Takes now step :=
  ⟨h.run steps, (s.run steps).derived, (s.run steps).takes⟩

/-- A new account of a file. -/
def opened : Scan := { toolName := "pescope", target := "a.exe", started := ⟨0, some 0⟩ }

/-- Steps of which the second, the third and the last are refused: a finding without a title, an
empty name, and a number for a summary. -/
def mixedSteps : List (Instant × Step) :=
  [(⟨1, some 0⟩, .add [("severity", .text "LOW"), ("title", .text "a"), ("description", .text "b")]),
    (⟨2, some 0⟩, .add [("severity", .text "LOW"), ("title", .text " "), ("description", .text "b")]),
    (⟨3, some 0⟩, .set "tool_name" (.text "")),
    (⟨4, some 0⟩, .add [("severity", .text "HIGH"), ("title", .text "c"), ("description", .text "d")]),
    (⟨5, some 0⟩, .finalize .null),
    (⟨6, some 0⟩, .finalize (.int 5))]

theorem valid_opened : opened.Valid :=
  ⟨by decide, by decide, fun f hf => absurd hf List.not_mem_nil⟩

/-- The steps leave two findings, the gravest severity is that of the second, and the summary is
that of the end that was not refused. -/
theorem run_consistent_mixedSteps :
    opened.Valid
      ∧ (opened.run mixedSteps).Valid
      ∧ (opened.run mixedSteps).findings.map (·.severity) = [.low, .high]
      ∧ (opened.run mixedSteps).highestSeverity? = some .high
      ∧ (opened.run mixedSteps).summary = "Analysis complete. Findings: 2 (HIGH: 1, LOW: 1)"
      ∧ (opened.run mixedSteps).ended? = some ⟨6, some 0⟩ := by
  obtain ⟨hvalid, hderived, -⟩ := run_consistent valid_opened mixedSteps
  have hfindings : (opened.run mixedSteps).findings.map (·.severity) = [.low, .high] := by
    rfl
  refine ⟨valid_opened, hvalid, hfindings, (hderived.gravest .high).2 ⟨?_, ?_⟩, ?_, ?_⟩
  · have hmem : Severity.high ∈ (opened.run mixedSteps).findings.map (·.severity) := by
      rw [hfindings]
      decide
    exact List.mem_map.1 hmem
  · have hall : ∀ severity ∈ (opened.run mixedSteps).findings.map (·.severity),
        Severity.high.rank ≤ severity.rank := by
      rw [hfindings]
      decide
    exact fun f hf => hall f.severity (List.mem_map_of_mem hf)
  · rfl
  · rfl

/-- An account that is to end with a number for a summary is refused that, and has ended. -/
theorem opened_finalize_number :
    opened.Valid
      ∧ (opened.step ⟨5, some 0⟩ (.finalize (.int 5))).2 ≠ none
      ∧ opened.ended? = none
      ∧ (opened.step ⟨5, some 0⟩ (.finalize (.int 5))).1.ended? = some ⟨5, some 0⟩
      ∧ (opened.step ⟨5, some 0⟩ (.finalize (.int 5))).1 ≠ opened := by
  refine ⟨valid_opened, by rintro ⟨⟩, rfl, rfl, fun heq => ?_⟩
  exact absurd (congrArg Scan.ended? heq) (by decide)

end Scan

end ImageImports

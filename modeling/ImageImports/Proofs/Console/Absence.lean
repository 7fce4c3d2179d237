import ImageImports.Proofs.Console.Beginnings
import ImageImports.Proofs.Console.Display
import ImageImports.Proofs.Import.Labels

/-!
# Libraries that are said not to be imported

A query for the symbols of one library is answered with a list, and the console says that no
library of that name is imported whenever the list is empty.  An empty list has two causes: there
is no such library, or the first library of that name has no symbols, because the image lists
none or because the reading of its table ended early.  In the second case what is said is not so.

What is said is a message with markup, and the name stands in it as it is.  A name without opening
brackets and without colons shows as it stands; a bracket may open a tag, which does not show, or
close one that is not open, which keeps the message from being shown at all, and colons may hold the
name of a picture.

## Main results

* `Markup.plain_message` — which messages show as they stand.
* `denies_functions_iff` — the console denies a library exactly when it is given no symbols of it.
* `denies_functionsOf` — so which libraries of a table are denied.
-/

namespace ImageImports.Console

namespace Markup

/-! ## Texts without markup -/

/-- A text without an opening bracket has no tags. -/
theorem pieces_of_not_mem {cs : List Char} (h : '[' ∉ cs) (slashes : Nat) :
    ∃ parts : List (List Char), pieces slashes cs = parts.map Piece.text
      ∧ parts.flatten = List.replicate slashes '\\' ++ cs := by
  induction cs generalizing slashes with
  | nil =>
    rw [pieces]
    split
    · next hnone => exact ⟨[], rfl, by rw [hnone]; rfl⟩
    · exact ⟨[_], rfl, by rw [List.flatten_singleton, List.append_nil]⟩
  | cons c rest ih =>
    have hrest : '[' ∉ rest := fun hmem => h (List.mem_cons_of_mem c hmem)
    have hopen : c ≠ '[' := fun heq => h (heq ▸ List.mem_cons_self)
    rw [pieces, if_neg hopen]
    split
    · next hslash =>
      obtain ⟨parts, heq, hflatten⟩ := ih hrest (slashes + 1)
      refine ⟨parts, heq, ?_⟩
      rw [hflatten, List.replicate_succ', List.append_assoc, List.singleton_append, hslash]
    · obtain ⟨parts, heq, hflatten⟩ := ih hrest 0
      refine ⟨(List.replicate slashes '\\' ++ [c]) :: parts, ?_, ?_⟩
      · rw [heq, List.map_cons]
      · rw [List.flatten_cons, hflatten, List.replicate_zero, List.nil_append, List.append_assoc,
          List.singleton_append]

/-- Neighbouring texts make one text. -/
theorem merged_texts {parts : List (List Char)} (h : parts ≠ []) :
    merged (parts.map Piece.text) = [.text parts.flatten] := by
  induction parts with
  | nil => exact absurd rfl h
  | cons cs rest ih =>
    cases rest with
    | nil => simp [merged]
    | cons next more =>
      have hmore := ih (List.cons_ne_nil next more)
      rw [List.map_cons, merged, hmore]
      rfl

/-- Without opening brackets no backslash is hidden. -/
theorem unguarded_of_not_mem {cs : List Char} (h : '[' ∉ cs) : unguarded cs = cs := by
  fun_induction unguarded cs with
  | case1 rest ih => exact absurd (List.mem_cons_of_mem _ List.mem_cons_self) h
  | case2 c rest hnot ih => rw [ih fun hmem => h (List.mem_cons_of_mem c hmem)]
  | case3 => rfl

/-- What is no code stays as it is. -/
theorem pictured_append {front : List Char} (h : ':' ∉ front) (behind : List Char) :
    Picture.pictured (front ++ behind) = front ++ Picture.pictured behind := by
  induction front with
  | nil => rfl
  | cons c rest ih =>
    have hc : c ≠ ':' := fun heq => h (heq ▸ List.mem_cons_self)
    rw [List.cons_append, Picture.pictured, if_neg hc,
      ih fun hmem => h (List.mem_cons_of_mem c hmem), List.cons_append]

/-- A colon in front of a blank begins no code. -/
theorem pictured_colon (behind : List Char) :
    Picture.pictured (':' :: ' ' :: behind) = ':' :: Picture.pictured (' ' :: behind) := by
  have hblank : Picture.inCode ' ' = false := rfl
  rw [Picture.pictured, if_pos rfl]
  split
  · next heq =>
    rw [List.dropWhile_cons_of_neg (by rw [hblank]; decide)] at heq
    cases heq
  · rfl

theorem pieces_open (slashes : Nat) {rest : List Char} (h : ofTag? rest = none) :
    pieces slashes ('[' :: rest) =
      .text (List.replicate slashes '\\' ++ ['[']) :: pieces 0 rest := by
  rw [pieces, if_neg (by decide), if_pos rfl]
  split
  · next heq =>
    rw [h] at heq
    cases heq
  · rfl

/-- Texts that are no tags show with their codes as pictures. -/
theorem shown_texts {parts : List (List Char)} (h : parts ≠ []) :
    shown [] (merged (parts.map Piece.text)) =
      .ok (Picture.pictured (unguarded parts.flatten)) := by
  rw [merged_texts h, shown, shown]
  exact congrArg Except.ok (List.append_nil _)

/-- What stands before a message: a sign between brackets, and a word with a colon. -/
theorem lead_eq (tone : Tone) : ∃ sign word, tone.lead.toList = '[' :: sign :: word ++ [':', ' ']
    ∧ startsTag sign = false ∧ '[' ∉ sign :: word ∧ ':' ∉ '[' :: sign :: word := by
  cases tone with
  | success => exact ⟨'✔', "] SUCCESS".toList, rfl, by decide, by decide, by decide⟩
  | warning => exact ⟨'⚠', "] WARNING".toList, rfl, by decide, by decide, by decide⟩
  | error => exact ⟨'✘', "] ERROR".toList, rfl, by decide, by decide, by decide⟩
  | info => exact ⟨'ℹ', "] INFO".toList, rfl, by decide, by decide, by decide⟩

/-- A message without opening brackets and without colons shows as it stands. -/
theorem plain_message (tone : Tone) {text : String} (hopen : '[' ∉ text.toList)
    (hcolon : ':' ∉ text.toList) :
    plain (tone.lead ++ text) = .ok (verbatim (tone.lead ++ text)) := by
  obtain ⟨sign, word, hlead, hsign, hbrackets, hcolons⟩ := lead_eq tone
  have hwhole : (tone.lead ++ text).toList =
      ('[' :: sign :: word) ++ ':' :: ' ' :: text.toList := by
    rw [String.toList_append, hlead, List.append_assoc]
    rfl
  have hbehind : '[' ∉ sign :: word ++ ':' :: ' ' :: text.toList := by
    intro hmem
    rcases List.mem_append.1 hmem with hmem | hmem
    · exact hbrackets hmem
    · simp [hopen] at hmem
  obtain ⟨parts, hparts, hflatten⟩ := pieces_of_not_mem hbehind 0
  rw [List.replicate_zero, List.nil_append] at hflatten
  have hnone : ofTag? (sign :: word ++ ':' :: ' ' :: text.toList) = none := ofTag?_of_head? hsign
  have hpieces : pieces 0 (tone.lead ++ text).toList = (['['] :: parts).map Piece.text := by
    rw [hwhole, List.cons_append, pieces_open 0 hnone, hparts]
    rfl
  have hjoined : (['['] :: parts).flatten = (tone.lead ++ text).toList := by
    rw [List.flatten_cons, hflatten, hwhole]
    rfl
  have hunguarded : unguarded (tone.lead ++ text).toList = (tone.lead ++ text).toList := by
    rw [hwhole, List.cons_append]
    exact congrArg ('[' :: ·) (unguarded_of_not_mem hbehind)
  have hpictured : Picture.pictured (tone.lead ++ text).toList = (tone.lead ++ text).toList := by
    have hblank : ':' ∉ ' ' :: text.toList := by simpa using hcolon
    rw [hwhole, pictured_append hcolons, pictured_colon, Picture.pictured_of_not_mem _ hblank]
  rw [plain, hpieces, shown_texts (List.cons_ne_nil _ _), hjoined, hunguarded, hpictured]
  rfl

end Markup

/-! ## Lines within lines -/

/-- A run of members that begins with one of a kind lies behind all members of other kinds. -/
theorem infix_of_append {α : Type} {p : α → Prop} {a : α} {run front behind : List α} (ha : p a)
    (hfront : ∀ b ∈ front, ¬ p b) (h : a :: run <:+: front ++ behind) : a :: run <:+: behind := by
  induction front with
  | nil => exact h
  | cons b rest ih =>
    obtain ⟨hb, hrest⟩ := List.forall_mem_cons.1 hfront
    rw [List.cons_append] at h
    rcases List.infix_cons_iff.1 h with hprefix | hinfix
    · exact absurd ((List.cons_prefix_cons.1 hprefix).1 ▸ ha) hb
    · exact ih hrest hinfix

/-! ## What is said -/

/-- The lines in which it is said that no library of that name is imported. -/
def denial (n : Nat) (library : String) : List String :=
  onScreen n (flow n .loose .fold (Markup.verbatim (Tone.warning.lead ++ absentText library)))

/-- Among the lines it is said that no library of that name is imported. -/
def Denies (n : Nat) (library : String) (lines : List String) : Prop :=
  denial n library <:+: lines

/-- What is said begins with the bracket in front of a warning, on every screen. -/
theorem denial_begins {n : Nat} (hn : 0 < n) (library : String) :
    ∃ line rest, denial n library = line :: rest ∧ BeginsWith '[' line := by
  have hsolid : Solid '[' := by decide
  have hblank : isBlank '[' = false := rfl
  have htext : ∃ more, Markup.verbatim (Tone.warning.lead ++ absentText library) = '[' :: more := by
    rw [Markup.verbatim, String.toList_append]
    exact ⟨_, rfl⟩
  obtain ⟨more, hmore⟩ := htext
  obtain ⟨first, others, hflow⟩ := flow_begins hsolid hblank hn more
  rw [denial, hmore, hflow]
  exact hsolid.beginsWith_onScreen hn first others

/-- Nothing is said among lines none of which begins like a warning. -/
theorem Denies.of_append {n : Nat} (hn : 0 < n) {library : String} {front behind : List String}
    (hfront : ∀ line ∈ front, ¬ BeginsWith '[' line) (h : Denies n library (front ++ behind)) :
    Denies n library behind := by
  obtain ⟨line, rest, heq, hline⟩ := denial_begins hn library
  rw [Denies, heq] at h ⊢
  exact infix_of_append hline hfront h

theorem not_denies {n : Nat} (hn : 0 < n) {library : String} {lines : List String}
    (h : ∀ line ∈ lines, ¬ BeginsWith '[' line) : ¬ Denies n library lines := by
  intro hdenies
  obtain ⟨line, rest, heq, -⟩ := denial_begins hn library
  rw [← List.append_nil lines] at hdenies
  have hempty := hdenies.of_append hn h
  rw [Denies, heq, List.infix_nil] at hempty
  cases hempty

/-- Lines that are shown are lines of a print. -/
theorem mem_lines_shown {prints : List Print} {line : String} (h : line ∈ (shown prints).lines) :
    ∃ lines, .ok lines ∈ prints ∧ line ∈ lines := by
  induction prints with
  | nil => cases h
  | cons p rest ih =>
    cases p with
    | error fault => cases h
    | ok lines =>
      rw [shown] at h
      rcases List.mem_append.1 h with h | h
      · exact ⟨lines, List.mem_cons_self, h⟩
      · obtain ⟨others, hothers, h⟩ := ih h
        exact ⟨others, List.mem_cons_of_mem _ hothers, h⟩

/-! ## The symbols of a library -/

/-- What is shown of a library that has no symbols, behind the head of the section: the warning,
and a blank line. -/
def warned (n : Nat) (library : String) : List String :=
  (shown [message n .warning (absentText library), blank]).lines

/-- The warning shows the name of the library as it stands. -/
def Legible (n : Nat) (library : String) : Prop := Denies n library (warned n library)

/-- A name without opening brackets and without colons shows as it stands. -/
theorem legible_of_not_mem (n : Nat) {library : String} (hopen : '[' ∉ library.toList)
    (hcolon : ':' ∉ library.toList) : Legible n library := by
  have habsent {d : Char} (hd : d ∈ Wording.marks) (h : d ∉ library.toList)
      (hbefore : d ∉ "No library named ".toList) (hbehind : d ∉ " is imported.".toList) :
      d ∉ (absentText library).toList := by
    unfold absentText
    rw [String.toList_append, String.toList_append, List.mem_append, List.mem_append]
    rintro ((hmem | hmem) | hmem)
    · exact hbefore hmem
    · exact h (Wording.mem_of_mem_quoted hd hmem).1
    · exact hbehind hmem
  have hplain := Markup.plain_message .warning
    (habsent (by decide) hopen (by decide) (by decide))
    (habsent (by decide) hcolon (by decide) (by decide))
  have hmessage : message n .warning (absentText library) = .ok (denial n library) := by
    rw [message, paragraph, hplain]
    rfl
  have hshown (lines : List String) : (shown [.ok lines, blank]).lines = lines ++ [""] := rfl
  rw [Legible, Denies, warned, hmessage, hshown]
  exact (List.prefix_append _ _).isInfix

/-- The lines of a table of symbols begin with its frame. -/
theorem not_beginsWith_symbols {n : Nat} (hn : 0 < n) (rows : List (List String))
    {lines : List String} (h : tablePrint n (textTable "" ["#", "Function"] rows) = .ok lines) :
    ∀ line ∈ lines, ¬ BeginsWith '[' line :=
  not_beginsWith_tablePrint rfl rfl (List.cons_ne_nil _ _) hn (by decide) h

/-- The console denies a library exactly when it is given no symbols of it, as far as the warning
shows the name. -/
theorem denies_functions_iff {n : Nat} (hn : 0 < n) (library : String) (names : List String) :
    Denies n library (shown (functions n library names)).lines ↔ names = [] ∧ Legible n library := by
  cases names with
  | nil =>
    have hhead : ∀ line ∈ (shown (sectionHead n ("Functions imported from " ++ library))).lines,
        ¬ BeginsWith '[' line := by
      intro line hline
      obtain ⟨lines, hlines, hline⟩ := mem_lines_shown hline
      exact not_beginsWith_sectionHead hn (by decide) (by decide) hlines line hline
    have hfault := shown_fault_eq_none_iff.2
      (sectionHead_succeeds n ("Functions imported from " ++ library))
    have hlines : (shown (functions n library [])).lines =
        (shown (sectionHead n ("Functions imported from " ++ library))).lines
          ++ warned n library := by
      rw [functions, shown_append, hfault]
      rfl
    rw [hlines]
    constructor
    · exact fun h => ⟨rfl, h.of_append hn hhead⟩
    · exact fun h => h.2.trans (List.suffix_append _ _).isInfix
  | cons name rest =>
    refine iff_of_false (not_denies hn fun line hline => ?_) fun h => nomatch h.1
    obtain ⟨lines, hlines, hline⟩ := mem_lines_shown hline
    rcases List.mem_append.1 hlines with hlines | hlines
    · exact not_beginsWith_sectionHead hn (by decide) (by decide) hlines line hline
    · rcases List.mem_cons.1 hlines with hlines | hlines
      · exact not_beginsWith_symbols hn _ hlines.symm line hline
      · exact not_beginsWith_blank (List.mem_singleton.1 hlines).symm line hline

/-! ## Tables of imports -/

/-- The first library of that name, where there is one, has no symbols. -/
def FirstEmpty (t : Import.Table) (library : String) : Prop :=
  ∀ l, t.libraries.find? (·.name = library) = some l → l.entries = []

/-- The first library of that name has a symbol that cannot be listed. -/
def FirstUnlistable (t : Import.Table) (library : String) : Prop :=
  ∃ l, t.libraries.find? (·.name = library) = some l ∧ ¬ ∀ e ∈ l.entries, e.Listable

theorem functionsOf?_eq_none_iff {t : Import.Table} {library : String} :
    t.functionsOf? library = none ↔ FirstUnlistable t library := by
  rw [Import.Table.functionsOf?, FirstUnlistable]
  split
  · next l hfound =>
    rw [Import.Library.labels?_eq, hfound]
    simp only [ite_eq_right_iff, reduceCtorEq, imp_false, Option.some.injEq, exists_eq_left']
  · next hnone =>
    rw [hnone]
    simp

theorem eq_nil_iff_firstEmpty {t : Import.Table} {library : String} {names : List String}
    (h : t.functionsOf? library = some names) : names = [] ↔ FirstEmpty t library := by
  rw [Import.Table.functionsOf?] at h
  rw [FirstEmpty]
  split at h
  · next l hfound =>
    rw [Import.Library.labels?_eq, Option.ite_none_right_eq_some, Option.some.injEq] at h
    rw [← h.2, List.map_eq_nil_iff]
    constructor
    · intro hempty other hother
      cases hfound.symm.trans hother
      exact hempty
    · exact fun h => h l hfound
  · next hnone =>
    cases h
    refine iff_of_true rfl fun l hfound => ?_
    cases hnone.symm.trans hfound

/-- What is not imported has no symbols. -/
theorem firstEmpty_of_not_mem {t : Import.Table} {library : String}
    (h : library ∉ t.libraryNames) : FirstEmpty t library := by
  intro l hfound
  refine absurd (List.mem_map.2 ⟨l, List.mem_of_find?_eq_some hfound, ?_⟩) h
  simpa using List.find?_some hfound

/-- **Which libraries the console denies.**  For every table and every name that is asked for, it is
said that no library of that name is imported exactly when the first library of that name has no
symbols, if there is one at all, and the warning shows the name; that it does where the name has
neither opening brackets nor colons.  So what is said holds, for a name that the warning shows,
exactly when the table does not have a library of that name without symbols in front of all others
of that name; and where the warning does not show the name, exactly when there is such a library.
The query has an answer unless that first library has a symbol that cannot be listed. -/
theorem denies_functionsOf {n : Nat} (hn : 0 < n) (t : Import.Table) (library : String) :
    (t.functionsOf? library = none ↔ FirstUnlistable t library)
      ∧ ∀ names, t.functionsOf? library = some names →
        let lines := (shown (functions n library names)).lines
        (Denies n library lines ↔ FirstEmpty t library ∧ Legible n library)
          ∧ ('[' ∉ library.toList → ':' ∉ library.toList → Legible n library)
          ∧ (Legible n library →
              ((Denies n library lines ↔ library ∉ t.libraryNames) ↔
                ¬ (library ∈ t.libraryNames ∧ FirstEmpty t library)))
          ∧ (¬ Legible n library →
              ((Denies n library lines ↔ library ∉ t.libraryNames) ↔
                library ∈ t.libraryNames)) := by
  refine ⟨functionsOf?_eq_none_iff, fun names hnames => ?_⟩
  intro lines
  have hdenies : Denies n library lines ↔ FirstEmpty t library ∧ Legible n library := by
    rw [denies_functions_iff hn, eq_nil_iff_firstEmpty hnames]
  refine ⟨hdenies, legible_of_not_mem n, fun hlegible => ?_, fun hlegible => ?_⟩
  · rw [hdenies, and_iff_left hlegible]
    constructor
    · exact fun hiff h => hiff.1 h.2 h.1
    · exact fun hnot => ⟨fun hempty hmem => hnot ⟨hmem, hempty⟩, firstEmpty_of_not_mem⟩
  · have hnot : ¬ (FirstEmpty t library ∧ Legible n library) := fun h => hlegible h.2
    rw [hdenies, iff_false_left hnot, not_not]

/-- A table with one library that has no symbols. -/
def barrenTable : Import.Table where
  libraries := [{ descriptor := { name := "a.dll" } }]

/-- That library is imported, and the console says that it is not. -/
theorem denies_functionsOf_barren :
    0 < 80 ∧ "a.dll" ∈ barrenTable.libraryNames
      ∧ ∃ names, barrenTable.functionsOf? "a.dll" = some names
        ∧ Denies 80 "a.dll" (shown (functions 80 "a.dll" names)).lines := by
  have hnames : barrenTable.functionsOf? "a.dll" = some [] := rfl
  obtain ⟨hdenies, hlegible, -⟩ :=
    (denies_functionsOf (n := 80) (by decide) barrenTable "a.dll").2 [] hnames
  have hempty : FirstEmpty barrenTable "a.dll" := by
    intro l hfound
    cases hfound
    rfl
  exact ⟨by decide, List.mem_singleton.2 rfl, [], hnames,
    hdenies.2 ⟨hempty, hlegible (by decide) (by decide)⟩⟩

end ImageImports.Console

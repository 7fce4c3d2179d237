import ImageImports.Console.Display
import ImageImports.Proofs.Console.Templates

/-!
# Which prints can be shown

A print fails for its markup alone: the text of a message, the cells of a table, the words
around them.  So a table without styles can be shown when each of its texts can, and a
table of escaped texts can be shown whatever they are.

## Main results

* `shown_fault_eq_none_iff` — prints are shown to the end when each of them can be shown.
* `tablePrint_succeeds` — tables of texts that can be shown can be shown.
-/

namespace ImageImports.Console

open Markup

/-! ## Prints -/

/-- Prints are shown to the end when each of them can be shown. -/
theorem shown_fault_eq_none_iff {prints : List Print} :
    (shown prints).fault = none ↔ ∀ p ∈ prints, Succeeds p := by
  induction prints with
  | nil => exact iff_of_true rfl (fun p hp => by cases hp)
  | cons p rest ih =>
    rw [List.forall_mem_cons, ← ih]
    cases p with
    | error fault =>
      exact iff_of_false (fun h => by cases h) (fun h => not_succeeds_error fault h.1)
    | ok lines => exact (and_iff_right (succeeds_ok lines)).symm

theorem succeeds_paragraph_iff {n : Nat} {text : String} :
    Succeeds (paragraph n text) ↔ Shows text :=
  succeeds_map_iff

/-- What stands before a message is no tag. -/
theorem liveTags_lead (tone : Tone) (rest : List Char) :
    liveTags 0 (tone.lead.toList ++ rest) = liveTags 0 rest := by
  have hlead : ∃ c more, tone.lead.toList = '[' :: c :: more ∧ startsTag c = false
      ∧ (c :: more).all (fun d => d ≠ '\\' ∧ d ≠ '[') = true := by
    cases tone <;> exact ⟨_, _, rfl, by decide, by decide⟩
  obtain ⟨c, more, heq, hc, hall⟩ := hlead
  have hmore : ∀ d ∈ c :: more, d ≠ '\\' ∧ d ≠ '[' := fun d hd =>
    of_decide_eq_true (List.all_eq_true.1 hall d hd)
  have hopen : ofTag? (c :: more ++ rest) = none := ofTag?_of_head? hc
  rw [heq, List.cons_append, liveTags_open 0 hopen]
  exact liveTags_append hmore (List.cons_ne_nil c more) 0 rest

theorem succeeds_message_iff {n : Nat} {tone : Tone} {text : String} :
    Succeeds (message n tone text) ↔ Shows text := by
  rw [message, succeeds_paragraph_iff, shows_iff, shows_iff, String.toList_append,
    liveTags_lead]

/-- The head of a section can be shown, whatever its title. -/
theorem sectionHead_succeeds (n : Nat) (title : String) :
    ∀ p ∈ sectionHead n title, Succeeds p := by
  have htitle : Composed ("  " ++ (escape title ++ "  ")) :=
    (Quiet.sealed (by decide)).append_composed
      ((inert_escape title).composed.append_quiet (by decide))
  intro p hp
  rcases List.mem_cons.1 hp with rfl | hp
  · rw [String.append_assoc]
    exact succeeds_map_iff.2 htitle.shows
  · rw [List.mem_singleton.1 hp]
    exact succeeds_ok _

/-! ## Tables -/

namespace Table

theorem checkStyle_of_none {s : Strip} (h : s.style = "") : Succeeds s.checkStyle := by
  have hcheck : Style.check "" = .ok () := rfl
  rw [Strip.checkStyle, h, hcheck]
  exact succeeds_ok _

/-- A column without a style whose cells can be shown. -/
structure Strip.Legible (s : Strip) : Prop where
  style : s.style = ""
  header : Shows s.header
  cells : ∀ cell ∈ s.cells, Shows cell

theorem Strip.Legible.measure {s : Strip} (h : s.Legible) (room : Nat) :
    Succeeds (s.measure room) := by
  rw [Strip.measure]
  split
  · exact succeeds_ok 0
  · split
    · exact succeeds_ok _
    · refine Succeeds.bind (checkStyle_of_none h.style) fun _ _ => ?_
      simp only
      split
      · exact succeeds_pure _
      · exact (succeeds_mapM_iff.2 h.cells).bind fun _ _ => succeeds_pure _

theorem columnWidths_succeeds {strips : List Strip} (h : ∀ s ∈ strips, s.Legible)
    (room : Nat) :
    Succeeds (columnWidths strips room) := by
  rw [columnWidths]
  refine (succeeds_mapM_iff.2 fun s hs => (h s hs).measure room).bind fun widths _ => ?_
  simp only
  split
  · exact succeeds_pure _
  · refine succeeds_mapM_iff.2 ?_
    rintro ⟨s, w⟩ hsw
    exact (h s (List.of_mem_zip hsw).1).measure w

theorem rowLines_succeeds {cells : List String} (h : ∀ cell ∈ cells, Shows cell)
    (inHead : Bool) (bar : Char) (widths : List Nat) (aligns : List Alignment) :
    Succeeds (rowLines inHead bar widths aligns cells) := by
  rw [rowLines]
  refine Succeeds.bind (succeeds_mapM_iff.2 ?_) fun _ _ => succeeds_pure _
  rintro ⟨w, align, cell⟩ hcell
  have hshows := h cell (List.of_mem_zip (List.of_mem_zip hcell).2).2
  refine succeeds_map_iff.2 ?_
  show Succeeds (if w - padding = 0 then .ok [] else _)
  split
  · exact succeeds_ok _
  · exact succeeds_map_iff.2 hshows

/-- A table of which every text can be shown and which has no styles. -/
structure Legible (t : Table) : Prop where
  styles : ∀ c ∈ t.columns, c.style = ""
  headers : ∀ c ∈ t.columns, Shows c.header
  cells : ∀ row ∈ t.rows, ∀ cell ∈ row, Shows cell
  title : Shows t.title
  caption : Shows t.caption

theorem shows_empty : Shows "" := Quiet.shows rfl

theorem shows_getD {row : List String} (h : ∀ cell ∈ row, Shows cell) (i : Nat) :
    Shows (row.getD i "") := by
  rw [List.getD_eq_getElem?_getD]
  cases hcell : row[i]? with
  | none => exact shows_empty
  | some cell => exact h cell (List.mem_of_getElem? hcell)

theorem Legible.strips {t : Table} (h : t.Legible) : ∀ s ∈ t.strips, s.Legible := by
  intro s hs
  obtain ⟨⟨column, i⟩, hcolumn, rfl⟩ := List.mem_map.1 hs
  have hmem := List.fst_mem_of_mem_zipIdx hcolumn
  have hlegible : column.style = "" ∧ Shows column.header := by
    rcases List.mem_append.1 hmem with hmem | hmem
    · exact ⟨h.styles column hmem, h.headers column hmem⟩
    · have hcolumn : column = { header := "" } := List.eq_of_mem_replicate hmem
      rw [hcolumn]
      exact ⟨rfl, shows_empty⟩
  exact
    { style := hlegible.1
      header := hlegible.2
      cells := by
        intro cell hcell
        rcases List.mem_cons.1 hcell with rfl | hcell
        · exact hlegible.2
        · obtain ⟨row, hrow, rfl⟩ := List.mem_map.1 hcell
          exact shows_getD (h.cells row hrow) i }

/-- A table can be shown if all its texts can. -/
theorem Legible.lines {t : Table} (h : t.Legible) (n : Nat) : Succeeds (t.lines n) := by
  have hstrips := h.strips
  have htold {text : String} (htext : Shows text) (n : Nat) :
      Succeeds <| annotation n text := by
    rw [ annotation]
    split
    · exact succeeds_ok _
    · exact succeeds_map_iff.2 htext
  have hframed (widths : List Nat) : Succeeds (t.framed t.strips widths) := by
    rw [framed]
    refine (succeeds_forM_iff.2 fun s hs =>
      checkStyle_of_none (hstrips s hs).style).bind fun _ _ => ?_
    refine (rowLines_succeeds ?_ _ _ _ _).bind fun _ _ => ?_
    · intro cell hcell
      obtain ⟨s, hs, rfl⟩ := List.mem_map.1 hcell
      exact (hstrips s hs).header
    · refine Succeeds.bind (succeeds_mapM_iff.2 fun row hrow =>
        rowLines_succeeds ?_ _ _ _ _) fun _ _ =>
        succeeds_pure _
      intro cell hcell
      rcases List.mem_append.1 hcell with hcell | hcell
      · exact h.cells row hrow cell hcell
      · rw [List.eq_of_mem_replicate hcell]
        exact shows_empty
  rw [Table.lines]
  simp only
  split
  · exact succeeds_pure _
  · refine (columnWidths_succeeds hstrips _).bind fun widths _ => ?_
    refine (htold h.title _).bind fun _ _ => ?_
    refine (hframed widths).bind fun _ _ => ?_
    exact (htold h.caption _).bind fun _ _ => succeeds_pure _

end Table

theorem tablePrint_succeeds {t : Table} (h : t.Legible) (n : Nat) :
    Succeeds (tablePrint n t) :=
  succeeds_map_iff.2 (h.lines n)

/-! ## Other tables -/

theorem shows_escape (s : String) : Shows (escape s) := (inert_escape s).composed.shows

/-- A table of texts can be shown, whatever they are. -/
theorem textTable_legible {headers : List String} (hheaders : ∀ s ∈ headers, Quiet s)
    (rows : List (List String)) {caption : String} (hcaption : Quiet caption) :
    (textTable "" headers rows caption).Legible where
  styles := by
    intro c hc
    obtain ⟨⟨header, i⟩, -, rfl⟩ := List.mem_map.1 hc
    rfl
  headers := by
    intro c hc
    obtain ⟨⟨header, i⟩, hheader, rfl⟩ := List.mem_map.1 hc
    exact (hheaders header (List.fst_mem_of_mem_zipIdx hheader)).shows
  cells := by
    intro row hrow cell hcell
    obtain ⟨texts, -, rfl⟩ := List.mem_map.1 hrow
    obtain ⟨text, -, rfl⟩ := List.mem_map.1 hcell
    exact shows_escape text
  title := Table.shows_empty
  caption := hcaption.shows

/-- A table of findings can be shown, whatever they say. -/
theorem findingsTable_legible (findings : List Finding) :
    (findingsTable findings).Legible where
  styles := by
    have hstyles : ∀ c ∈ (findingsTable []).columns, c.style = "" := by decide
    exact hstyles
  headers := by
    have hquiet : ∀ c ∈ (findingsTable []).columns, Quiet c.header := by decide
    exact fun c hc => (hquiet c hc).shows
  cells := by
    intro row hrow cell hcell
    obtain ⟨⟨f, i⟩, -, rfl⟩ := List.mem_map.1 hrow
    have hword : Quiet f.severity.word := by
      cases f.severity <;> decide
    simp only [List.mem_cons, List.not_mem_nil, or_false] at hcell
    rcases hcell with rfl | rfl | rfl | rfl
    · exact (quiet_natRepr _).shows
    · exact hword.shows
    · exact shows_escape f.title
    · exact shows_escape f.description
  title := Quiet.shows (s := "Findings") (by decide)
  caption := Table.shows_empty

end ImageImports.Console

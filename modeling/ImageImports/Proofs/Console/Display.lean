import ImageImports.Proofs.Console.Prints
import Mathlib.Algebra.Ring.Nat

/-!
# Which analyses can be shown

Texts of an image are escaped wherever they are shown, except the names of sections: their
table hands them to the markup as they are.  So an analysis can be shown exactly when the
names of its sections can, unless the screen is too narrow for the table to read them at
all.

## Main results

* `sectionTable_succeeds_iff` — which tables of sections can be shown.
* `analysis_succeeds_iff` — which analyses can be shown.
-/

namespace ImageImports.Console

open Markup

/-! ## The table of sections -/

theorem sectionTable_legible {sections : List Section}
    (h : ∀ s ∈ sections, Shows s.displayName) : (sectionTable sections).Legible where
  styles := by
    simp [sectionTable]
  headers := by
    have hquiet : ∀ c ∈ (sectionTable []).columns, Quiet c.header := by decide
    exact fun c hc => (hquiet c hc).shows
  cells := by
    intro row hrow cell hcell
    obtain ⟨⟨s, i⟩, hs, rfl⟩ := List.mem_map.1 hrow
    have hname := h s (List.fst_mem_of_mem_zipIdx hs)
    simp only [List.mem_cons, List.not_mem_nil, or_false] at hcell
    rcases hcell with rfl | rfl | rfl | rfl | rfl | rfl | rfl
    · exact (quiet_natRepr _).shows
    · exact hname
    · exact (quiet_hexNumber _).shows
    · exact (quiet_hexNumber _).shows
    · exact (quiet_hexNumber _).shows
    · exact (quiet_hexNumber _).shows
    · exact (quiet_flags s).shows
  title := Table.shows_empty
  caption := Table.shows_empty

/-- The cells under a header, which stands above them. -/
def columnCells (sections : List Section) (column : Column) (i : Nat) : Table.Strip :=
  { column with
    cells := column.header :: (sectionTable sections).rows.map fun row => row.getD i "" }

/-- No row has more cells than there are columns. -/
theorem sectionTable_strips (sections : List Section) :
    (sectionTable sections).strips =
      (sectionTable []).columns.zipIdx.map fun (column, i) =>
        columnCells sections column i := by
  have hrows : ∀ row ∈ (sectionTable sections).rows, row.length = 7 := by
    intro row hrow
    obtain ⟨p, -, rfl⟩ := List.mem_map.1 hrow
    rfl
  have hcount : ((sectionTable sections).rows.map List.length).foldl max 7 = 7 := by
    generalize (sectionTable sections).rows = rows at hrows
    induction rows with
    | nil => rfl
    | cons row rest ih =>
      rw [List.map_cons, List.foldl_cons, hrows row List.mem_cons_self, Nat.max_self]
      exact ih fun other hother => hrows other (List.mem_cons_of_mem row hother)
  have hcolumns : (sectionTable sections).columns.length = 7 := rfl
  rw [Table.strips, hcolumns, hcount]
  rfl

/-- A column without a width of its own is measured by its cells, where there is room for
a text. -/
theorem Table.Strip.cells_of_measure {s : Table.Strip} (hfixed : s.fixed? = none)
    {room : Nat} (hroom : padding < room) (h : Succeeds (s.measure room)) :
    ∀ cell ∈ s.cells, Shows cell := by
  have hzero : ¬ room = 0 := by omega
  have hwide : ¬ room ≤ padding := by omega
  rw [measure, if_neg hzero, hfixed] at h
  obtain ⟨-, -, h⟩ := succeeds_bind_iff.1 h
  simp only [if_neg hwide] at h
  obtain ⟨texts, htexts, -⟩ := succeeds_bind_iff.1 h
  exact succeeds_mapM_iff.1 ⟨texts, htexts⟩

/-- The names are read where the screen has room for them. -/
theorem shows_of_sectionTable {sections : List Section} {n : Nat} (hn : 10 < n)
    (h : Succeeds (tablePrint n (sectionTable sections))) :
    ∀ s ∈ sections, Shows s.displayName := by
  have hlines := succeeds_map_iff.1 h
  rw [Table.lines, sectionTable_strips] at hlines
  simp only at hlines
  obtain ⟨widths, hwidths, -⟩ := succeeds_bind_iff.1 hlines
  rw [Table.columnWidths] at hwidths
  obtain ⟨measured, hmeasured, -⟩ := succeeds_bind_iff.1 ⟨widths, hwidths⟩
  let names := columnCells sections { header := "Name", least := 10 } 1
  have hmem : names ∈ (sectionTable []).columns.zipIdx.map fun (column, i) =>
      columnCells sections column i := List.mem_cons_of_mem _ List.mem_cons_self
  have hroom : Table.padding < n - (7 + 1) := by
    rw [Table.padding]
    omega
  have hcells := Table.Strip.cells_of_measure rfl hroom
    (succeeds_mapM_iff.1 ⟨measured, hmeasured⟩ names hmem)
  intro s hs
  obtain ⟨i, hi⟩ := List.mem_iff_getElem?.1 hs
  refine hcells s.displayName
    (List.mem_cons_of_mem _ (List.mem_map.2 ⟨_, List.mem_map.2 ⟨(s, i), ?_, rfl⟩, rfl⟩))
  exact List.mk_mem_zipIdx_iff_getElem?.2 hi

/-- What a column takes on a screen without room for a text: what it is given, or what it
needs at least. -/
def Column.bareWidth (room : Nat) (c : Column) : Nat :=
  if room = 0 then 0
  else match c.fixed? with
    | some n => min (n + Table.padding) room
    | none => max room (if c.least = 0 then 0 else c.least + Table.padding)

theorem Table.Strip.measure_eq_bareWidth {s : Table.Strip} (hstyle : s.style = "")
    {room : Nat}
    (hroom : room ≤ padding) : s.measure room = .ok (s.toColumn.bareWidth room) := by
  rw [measure, Column.bareWidth]
  split
  · rfl
  · cases s.fixed? with
    | some n => rfl
    | none =>
      obtain ⟨u, hu⟩ := checkStyle_of_none hstyle
      simp only [hu]
      exact congrArg (fun wanted => Except.ok (max wanted _)) (Nat.min_self room)

/-- On a screen that is too narrow for the names, all columns but the first give way
entirely. -/
theorem widths_give_way : ∀ room ≤ 2,
    let widths := ((sectionTable []).columns.map (Column.bareWidth room)).map (max 1)
    let narrowed := Table.narrow room ((sectionTable []).columns.map (·.fixed?.isNone))
      (Table.sum widths) widths
    ¬ Table.sum widths ≤ room
      ∧ (if Table.sum narrowed ≤ room then narrowed
          else Table.reduced (Table.sum narrowed - room)
            (narrowed.map fun w => (1, w, w))) =
        [room, 0, 0, 0, 0, 0, 0]
      ∧ ((sectionTable []).columns.zip [room, 0, 0, 0, 0, 0, 0]).map (fun p =>
        p.1.bareWidth p.2) =
        [room, 0, 0, 0, 0, 0, 0] := by
  decide

/-- The strips of the table of sections are its columns. -/
theorem columns_of_strips (sections : List Section) :
    (sectionTable sections).strips.map (·.toColumn) = (sectionTable []).columns := by
  rw [sectionTable_strips]
  rfl

theorem sectionTable_styles (sections : List Section) :
    ∀ s ∈ (sectionTable sections).strips, s.style = "" := by
  intro s hs
  have hstyles : ∀ c ∈ (sectionTable []).columns, c.style = "" := by decide
  refine hstyles s.toColumn ?_
  rw [← columns_of_strips sections]
  exact List.mem_map_of_mem hs

theorem columnWidths_narrow (sections : List Section) {room : Nat} (hroom : room ≤ 2) :
    Table.columnWidths (sectionTable sections).strips room =
      .ok [room, 0, 0, 0, 0, 0, 0] := by
  have hcolumns := columns_of_strips sections
  have hstyle := sectionTable_styles sections
  generalize (sectionTable sections).strips = strips at hcolumns hstyle
  have hbare (room : Nat) : strips.map (fun s => s.toColumn.bareWidth room) =
      (sectionTable []).columns.map (Column.bareWidth room) := by
    rw [← hcolumns, List.map_map]
    rfl
  have hfixed : strips.map (·.fixed?.isNone) =
      (sectionTable []).columns.map (·.fixed?.isNone) := by
    rw [← hcolumns, List.map_map]
    rfl
  have hmeasure : strips.mapM (fun s => s.measure room) =
      .ok (strips.map fun s => s.toColumn.bareWidth room) :=
    mapM_eq_ok_map fun s hs => Table.Strip.measure_eq_bareWidth (hstyle s hs) hroom
  have hlast : (strips.zip [room, 0, 0, 0, 0, 0, 0]).mapM (fun p => p.1.measure p.2) =
      .ok ((strips.zip [room, 0, 0, 0, 0, 0, 0]).map fun p =>
        p.1.toColumn.bareWidth p.2) := by
    refine mapM_eq_ok_map ?_
    rintro ⟨s, w⟩ hsw
    have hw := (List.of_mem_zip hsw).2
    simp only [List.mem_cons, List.not_mem_nil, or_false] at hw
    exact Table.Strip.measure_eq_bareWidth (hstyle s (List.of_mem_zip hsw).1)
      (show w ≤ 2 by omega)
  have hend : (strips.zip [room, 0, 0, 0, 0, 0, 0]).map (fun p =>
      p.1.toColumn.bareWidth p.2) =
      ((sectionTable []).columns.zip [room, 0, 0, 0, 0, 0, 0]).map fun p =>
        p.1.bareWidth p.2 := by
    rw [← hcolumns, List.zip_map_left, List.map_map]
    rfl
  obtain ⟨hexcess, hwidths, hsame⟩ := widths_give_way room hroom
  rw [Table.columnWidths, hmeasure, hbare]
  refine Eq.trans (if_neg hexcess) ?_
  simp only
  rw [hfixed, hwidths, hlast, hend, hsame]

/-- Cells that have no room for a text are not read. -/
theorem rowLines_narrow {widths : List Nat} (hwidths : ∀ w ∈ widths, w ≤ 2)
    (inHead : Bool) (bar : Char) (aligns : List Alignment) (cells : List String) :
    Succeeds (Table.rowLines inHead bar widths aligns cells) := by
  rw [Table.rowLines]
  refine Succeeds.bind (succeeds_mapM_iff.2 ?_) fun _ _ => succeeds_pure _
  rintro ⟨w, align, cell⟩ hcell
  have hroom : w - Table.padding = 0 := by
    have hw := hwidths w (List.of_mem_zip hcell).1
    rw [Table.padding]
    omega
  refine succeeds_map_iff.2 ?_
  show Succeeds (if w - Table.padding = 0 then .ok [] else _)
  rw [if_pos hroom]
  exact succeeds_ok _

/-- A screen that is too narrow for the names of the sections shows their table without
them. -/
theorem sectionTable_narrow (sections : List Section) {n : Nat} (hn : n ≤ 10) :
    Succeeds (tablePrint n (sectionTable sections)) := by
  have hlength : (sectionTable sections).strips.length = 7 := by
    rw [sectionTable_strips]
    rfl
  have hne : (sectionTable sections).strips.isEmpty = false := by
    rw [sectionTable_strips]
    rfl
  have hroom : n - (7 + 1) ≤ 2 := by omega
  have hnarrow : ∀ w ∈ [n - (7 + 1), 0, 0, 0, 0, 0, 0], w ≤ 2 := by
    intro w hw
    simp only [List.mem_cons, List.not_mem_nil, or_false] at hw
    omega
  have hstyles : Succeeds ((sectionTable sections).strips.forM Table.Strip.checkStyle) :=
    succeeds_forM_iff.2 fun s hs =>
      Table.checkStyle_of_none (sectionTable_styles sections s hs)
  refine succeeds_map_iff.2 ?_
  rw [Table.lines, hlength]
  simp only [hne]
  refine succeeds_bind_iff.2 ⟨_, columnWidths_narrow sections hroom, ?_⟩
  refine Succeeds.bind (succeeds_ok []) fun _ _ => ?_
  refine Succeeds.bind ?_ fun _ _ => succeeds_ok _
  rw [Table.framed]
  refine hstyles.bind fun _ _ => ?_
  refine (rowLines_narrow hnarrow _ _ _ _).bind fun _ _ => ?_
  exact (succeeds_mapM_iff.2 fun row _ => rowLines_narrow hnarrow _ _ _ _).bind fun _ _ =>
    succeeds_pure _

/-- The table of sections can be shown when the names can, or when the screen has no room
for them. -/
theorem sectionTable_succeeds_iff {n : Nat} {sections : List Section} :
    Succeeds (tablePrint n (sectionTable sections)) ↔
      n ≤ 10 ∨ ∀ s ∈ sections, Shows s.displayName := by
  constructor
  · intro h
    by_cases hn : n ≤ 10
    · exact .inl hn
    · exact .inr (shows_of_sectionTable (by omega) h)
  · rintro (hn | h)
    · exact sectionTable_narrow sections hn
    · exact tablePrint_succeeds (sectionTable_legible h) n

/-! ## Header data -/

/-- Header data that is told in wording, and whose size can be told in units of 1024. -/
structure ToldInWording (i : ImageInfo) : Prop where
  size : i.size.natAbs < 2 ^ 53
  arch : Quiet i.arch
  subsystem : Quiet i.subsystem
  md5 : Quiet i.md5
  sha256 : Quiet i.sha256

theorem kibibytes_succeeds {size : Int} (h : size.natAbs < 2 ^ 53) :
    ∃ b : Decimal.Binary, kibibytes size = .ok (b.fixed 1) := by
  have hlength : Nat.log2 size.natAbs + 1 ≤ 53 := by
    by_cases hzero : size.natAbs = 0
    · rw [hzero]
      decide
    · exact (Nat.log2_lt hzero).2 h
  rw [kibibytes, Decimal.nearest?]
  simp only [if_pos hlength]
  exact ⟨_, rfl⟩

theorem Opens.append {s t : String} (hs : Opens s) (ht : Opens t) : Opens (s ++ t) := by
  intro rest hrest
  rw [String.toList_append, List.append_assoc]
  exact hs _ (ht rest hrest)

/-- A text that can stand on a line of its own among others. -/
structure IsLine (s : String) : Prop where
  composed : Composed s
  opens : Opens s

theorem labelled_eq (label value : String) :
    labelled label value =
      styled "bold" (label ++ ":") ++ ("".pushn ' ' (13 - label.length) ++ value) := by
  have hopen : "[bold]" = "[" ++ "bold" ++ "]" := by decide
  have hclose : ":[/bold]" = ":" ++ ("[/" ++ "bold" ++ "]") := by decide
  rw [labelled, styled, hopen, hclose]
  simp only [String.append_assoc]

theorem isLine_labelled {label value : String} (hlabel : Quiet label)
    (hvalue : Composed value) :
    IsLine (labelled label value) := by
  rw [labelled_eq]
  have hstyled : Sealed (styled "bold" (label ++ ":")) :=
    sealed_styled isStyle_bold (Quiet.inert (quiet_append_iff.2 ⟨hlabel, by decide⟩))
  have hblanks : Quiet ("".pushn ' ' (13 - label.length)) := quiet_pushn (by decide) _
  refine ⟨hstyled.append_composed (hblanks.sealed.append_composed hvalue),
    opens_of_head? ?_⟩
  simp [styled]

theorem isLine_intercalate {lines : List String} (h : ∀ s ∈ lines, IsLine s) :
    IsLine ("\n".intercalate lines) := by
  have hfeed : Quiet "\n" := by decide
  induction lines with
  | nil =>
    have hempty : Quiet "" := by decide
    exact ⟨hempty.sealed.composed, hempty.opens⟩
  | cons s rest ih =>
    have hs := h s List.mem_cons_self
    have hrest := ih fun t ht => h t (List.mem_cons_of_mem s ht)
    cases rest with
    | nil => rwa [String.intercalate_singleton]
    | cons t more =>
      rw [String.intercalate_cons_cons]
      exact ⟨hs.composed.append hfeed (by decide) hrest.composed hrest.opens,
        (hs.opens.append hfeed.opens).append hrest.opens⟩

/-- The text of header data that is told in wording can be shown, whatever the path
name. -/
theorem headerText_shows {i : ImageInfo} (h : ToldInWording i) :
    ∃ text, headerText i = .ok text ∧ Shows text := by
  obtain ⟨b, hb⟩ := kibibytes_succeeds h.size
  have hquiet {label value : String} (hlabel : Quiet label) (hvalue : Quiet value) :
      IsLine (labelled label value) := isLine_labelled hlabel hvalue.inert.composed
  rw [headerText, hb]
  refine ⟨_, rfl, (isLine_intercalate ?_).composed.shows⟩
  simp only [List.forall_mem_append]
  refine ⟨⟨⟨⟨?_, ?_⟩, ?_⟩, ?_⟩, ?_⟩
  · intro line hline
    rcases List.mem_cons.1 hline with rfl | hline
    · exact isLine_labelled (by decide) (inert_escape i.path).composed
    · rw [List.mem_singleton.1 hline]
      exact hquiet (by decide) (by simp +decide)
  · intro line hline
    split at hline
    · cases hline
    · simp only [List.mem_cons, List.not_mem_nil, or_false] at hline
      rcases hline with rfl | rfl | rfl | rfl | rfl
      · refine hquiet (by decide) ?_
        rw [ImageInfo.formatName]
        split <;> decide
      · exact hquiet (by decide) (by simp +decide [h.arch])
      · refine hquiet (by decide) (quiet_append_iff.2 ⟨h.subsystem, ?_⟩)
        split <;> decide
      · exact hquiet (by decide) (quiet_hexNumber _)
      · exact hquiet (by decide) (quiet_hexNumber _)
  · intro line hline
    obtain ⟨second, -, rfl⟩ := List.mem_map.1 hline
    exact hquiet (by decide) (quiet_append_iff.2 ⟨quiet_secondText second, by decide⟩)
  · intro line hline
    split at hline
    · cases hline
    · rw [List.mem_singleton.1 hline]
      exact hquiet (by decide) h.md5
  · intro line hline
    split at hline
    · cases hline
    · rw [List.mem_singleton.1 hline]
      exact hquiet (by decide) h.sha256

theorem header_succeeds {n : Nat} {i : ImageInfo} (h : ToldInWording i) :
    ∀ p ∈ header n i, Succeeds p := by
  obtain ⟨text, htext, hshows⟩ := headerText_shows h
  intro p hp
  rcases List.mem_cons.1 hp with rfl | hp
  · rw [htext]
    exact succeeds_map_iff.2 hshows
  · rw [List.mem_singleton.1 hp]
    exact succeeds_ok _

/-! ## Imports -/

/-- A tree can be shown, wherever its lines begin. -/
def Drawable (t : Tree) : Prop :=
  ∀ (n : Nat) (first other : List Char), Succeeds (t.linesBehind n first other)

theorem branchLines_succeeds {branches : List Tree} (h : ∀ t ∈ branches, Drawable t)
    (n : Nat) (lead : List Char) : Succeeds (Tree.branchLines n lead branches) := by
  induction branches with
  | nil =>
    rw [Tree.branchLines]
    exact succeeds_ok []
  | cons t rest ih =>
    have ht := h t List.mem_cons_self
    have hrest := ih fun u hu => h u (List.mem_cons_of_mem t hu)
    cases rest with
    | nil =>
      rw [Tree.branchLines]
      exact ht n _ _
    | cons u more =>
      rw [Tree.branchLines]
      exact (ht n _ _).bind fun _ _ => hrest.bind fun _ _ => succeeds_pure _

/-- A tree can be shown when its label and its branches can. -/
theorem drawable_node {label : String} {branches : List Tree} (hlabel : Shows label)
    (h : ∀ t ∈ branches, Drawable t) : Drawable (.node label branches) := by
  intro n first other
  have hlines : Succeeds (Tree.labelLines n first other label) := by
    rw [Tree.labelLines]
    refine hlabel.bind fun text _ => ?_
    simp only
    split
    · exact succeeds_pure _
    · split
      · exact succeeds_pure _
      · exact succeeds_pure _
  rw [Tree.linesBehind]
  exact hlines.bind fun _ _ => (branchLines_succeeds h n other).bind fun _ _ =>
    succeeds_pure _

/-- A symbol can be shown, whatever its name. -/
theorem entryLabel_shows (e : Import.Entry) : Shows (entryLabel e) := by
  rw [entryLabel]
  split
  · next hordinal =>
    have hlabel : Quiet e.label := by
      rw [Import.Entry.label, if_pos hordinal]
      simp +decide
    exact (sealed_styled isStyle_yellow hlabel.inert).composed.shows
  · have hlabel {hint : String} (hquiet : Quiet hint) :
        Shows (escape e.name ++ " [dim]hint " ++ hint ++ "[/dim]") := by
      have heq : escape e.name ++ " [dim]hint " ++ hint ++ "[/dim]" =
          escape e.name ++ " " ++ styled "dim" ("hint " ++ hint) := by
        apply String.toList_inj.1
        simp [styled]
      have hstyled : Sealed (styled "dim" ("hint " ++ hint)) :=
        sealed_styled isStyle_dim (Quiet.inert (quiet_append_iff.2 ⟨by decide, hquiet⟩))
      rw [heq]
      exact ((inert_escape e.name).composed.append
        (by decide) (by decide) hstyled.composed
        (opens_styled _ _)).shows
    cases e.hint with
    | some hint => exact hlabel (quiet_intRepr hint)
    | none => exact hlabel (by decide)

/-- The label of a library can be shown, whatever its name. -/
theorem libraryLabel_shows (name : String) (count : Nat) :
    Shows ("[bold]" ++ escape name ++ "[/bold] [dim](" ++ count.repr ++ ")[/dim]") := by
  have heq : "[bold]" ++ escape name ++ "[/bold] [dim](" ++ count.repr ++ ")[/dim]" =
      styled "bold" (escape name)
        ++ (" " ++ styled "dim" ("(" ++ count.repr ++ ")")) := by
    apply String.toList_inj.1
    simp [styled]
  have hname : Sealed (styled "bold" (escape name)) :=
    sealed_styled isStyle_bold (inert_escape name)
  have hcount : Sealed (styled "dim" ("(" ++ count.repr ++ ")")) :=
    sealed_styled isStyle_dim (Quiet.inert (by simp +decide))
  have hblank : Quiet " " := by decide
  rw [heq]
  exact (hname.append (hblank.sealed.append hcount)).composed.shows

/-- So can what is told of the symbols that are left out. -/
theorem hiddenLabel_shows (hidden : Nat) :
    Shows ("[dim]... " ++ hidden.repr ++ " more[/dim]") := by
  have heq : "[dim]... " ++ hidden.repr ++ " more[/dim]" =
      styled "dim" ("... " ++ hidden.repr ++ " more") := by
    apply String.toList_inj.1
    simp [styled]
  rw [heq]
  exact (sealed_styled isStyle_dim (Quiet.inert (by simp +decide))).composed.shows

/-- A library can be shown with its symbols, whatever their names. -/
theorem libraryTree_drawable (l : Import.Library) : Drawable (libraryTree l) := by
  rw [libraryTree]
  refine drawable_node (libraryLabel_shows l.name l.entries.length) ?_
  intro t ht
  rcases List.mem_append.1 ht with ht | ht
  · obtain ⟨e, -, rfl⟩ := List.mem_map.1 ht
    exact drawable_node (entryLabel_shows e) (fun t ht => by cases ht)
  · split at ht
    · cases ht
    · rw [List.mem_singleton.1 ht]
      exact drawable_node (hiddenLabel_shows _) (fun t ht => by cases ht)

theorem importTree_drawable (t : Import.Table) : Drawable (importTree t) := by
  have hlabel : "[bold bright_cyan]Import Directory[/bold bright_cyan]" =
      styled "bold bright_cyan" "Import Directory" := by decide
  rw [importTree, hlabel]
  refine drawable_node (sealed_styled isStyle_heading
    (Quiet.inert (by decide))).composed.shows ?_
  intro tree htree
  obtain ⟨l, -, rfl⟩ := List.mem_map.1 htree
  exact libraryTree_drawable l

/-- The imports can be shown, whatever the names in them. -/
theorem imports_succeeds (n : Nat) (t : Import.Table) :
    ∀ p ∈ imports n t, Succeeds p := by
  intro p hp
  rcases List.mem_append.1 hp with hp | hp
  · exact sectionHead_succeeds n "Imports" p hp
  · split at hp
    · simp only [List.mem_cons, List.not_mem_nil, or_false] at hp
      rcases hp with rfl | rfl | rfl | rfl
      · refine succeeds_paragraph_iff.2 (Quiet.shows ?_)
        simp +decide
      · exact succeeds_ok _
      · exact succeeds_map_iff.2 (importTree_drawable t n [] [])
      · exact succeeds_ok _
    · simp only [List.mem_cons, List.not_mem_nil, or_false] at hp
      rcases hp with rfl | rfl
      · exact succeeds_message_iff.2 (Quiet.shows (by decide))
      · exact succeeds_ok _

/-- How the reading of the imports went can be shown, whatever the messages quote. -/
theorem importStatus_succeeds (n : Nat) (t : Import.Table) :
    ∀ p ∈ importStatus n t, Succeeds p := by
  intro p hp
  rcases List.mem_cons.1 hp with rfl | hp
  · split
    · exact succeeds_message_iff.2 (Quiet.shows (by decide))
    · next e _ =>
      have haborted {place : String} (hplace : Quiet place) :
          Shows (s!"Import parsing aborted ({e.kind.word}){place}: "
            ++ escape e.message) := by
        have hlead : Quiet s!"Import parsing aborted ({e.kind.word}){place}: " := by
          simp +decide [hplace]
        exact (hlead.sealed.append_composed (inert_escape e.message).composed).shows
      cases e.offset with
      | some offset =>
        have hplace : Quiet (" at " ++ Bytes.hexNumber offset) :=
          quiet_append_iff.2 ⟨by decide, quiet_hexNumber offset⟩
        exact succeeds_message_iff.2 (haborted hplace)
      | none => exact succeeds_message_iff.2 (haborted (by decide))
  · rcases List.mem_append.1 hp with hp | hp
    · obtain ⟨w, -, rfl⟩ := List.mem_map.1 hp
      exact succeeds_message_iff.2 (shows_escape w)
    · rw [List.mem_singleton.1 hp]
      exact succeeds_ok _

/-! ## Whole analyses -/

theorem sectionList_succeeds_iff {n : Nat} {sections : List Section} :
    (∀ p ∈ sectionList n sections, Succeeds p) ↔
      n ≤ 10 ∨ ∀ s ∈ sections, Shows s.displayName := by
  rw [← sectionTable_succeeds_iff, sectionList, List.forall_mem_append]
  constructor
  · intro h
    exact h.2 _ List.mem_cons_self
  · intro h
    refine ⟨sectionHead_succeeds n "Sections", ?_⟩
    intro p hp
    rcases List.mem_cons.1 hp with rfl | hp
    · exact h
    · rw [List.mem_singleton.1 hp]
      exact succeeds_ok _

/-- **Which analyses can be shown**: those without sections whose names cannot, or those
on a screen without room for names. -/
theorem analysis_succeeds_iff {n : Nat} {a : Analysis} (findings : List Finding)
    (h : ToldInWording a.info) :
    (∀ p ∈ analysis n a findings, Succeeds p) ↔
      (a.parsed = true → n ≤ 10 ∨ ∀ s ∈ a.sections, Shows s.displayName) := by
  have hfindings : ∀ p ∈ (if findings.isEmpty then []
      else [tablePrint n (findingsTable findings), blank]), Succeeds p := by
    intro p hp
    split at hp
    · cases hp
    · rcases List.mem_cons.1 hp with rfl | hp
      · exact tablePrint_succeeds (findingsTable_legible findings) n
      · rw [List.mem_singleton.1 hp]
        exact succeeds_ok _
  have hrule : ∀ p ∈ [rule n], Succeeds p := by
    intro p hp
    rw [List.mem_singleton.1 hp]
    exact succeeds_ok _
  have hparsed : (∀ p ∈ (if a.sections.isEmpty then []
      else sectionList n a.sections), Succeeds p) ↔
      n ≤ 10 ∨ ∀ s ∈ a.sections, Shows s.displayName := by
    split
    · next hempty =>
      rw [List.isEmpty_iff.1 hempty]
      exact iff_of_true (fun p hp => by cases hp) (.inr fun s hs => by cases hs)
    · exact sectionList_succeeds_iff
  have hfront := sectionHead_succeeds n "Image Analysis Results"
  have hheader := header_succeeds (n := n) h
  rw [analysis]
  simp only [List.forall_mem_append]
  by_cases ha : a.parsed = true
  · simp only [if_pos ha, List.forall_mem_append, hparsed]
    constructor
    · rintro ⟨⟨⟨-, ⟨hsections, -⟩, -⟩, -⟩, -⟩ -
      exact hsections
    · intro hsections
      exact ⟨⟨⟨⟨hfront, hheader⟩, ⟨hsections ha, imports_succeeds n a.imports⟩,
        importStatus_succeeds n a.imports⟩, hfindings⟩, hrule⟩
  · have hmessage : Shows (escape a.info.path ++ " is not a PE image.") :=
      ((inert_escape a.info.path).composed.append_quiet (by decide)).shows
    simp only [if_neg ha, List.forall_mem_singleton]
    refine iff_of_true ⟨⟨⟨⟨hfront, hheader⟩, succeeds_message_iff.2 hmessage⟩, hfindings⟩,
      ?_⟩
      fun hparsed => absurd hparsed ha
    exact succeeds_ok _

/-! ## Answers to queries -/

theorem absentText_shows {library : String} (h : '[' ∉ library.toList) :
    Shows (absentText library) := by
  refine shows_of_not_mem ?_
  unfold absentText
  rw [String.toList_append, String.toList_append, List.mem_append, List.mem_append]
  rintro ((hmem | hmem) | hmem)
  · exact absurd hmem (by decide)
  · exact h (Wording.mem_of_mem_quoted (by decide) hmem).1
  · exact absurd hmem (by decide)

theorem functions_succeeds (n : Nat) {library : String} (hlibrary : '[' ∉ library.toList)
    (names : List String) : ∀ p ∈ functions n library names, Succeeds p := by
  intro p hp
  rcases List.mem_append.1 hp with hp | hp
  · exact sectionHead_succeeds n _ p hp
  · rcases List.mem_cons.1 hp with rfl | hp
    · split
      · exact succeeds_message_iff.2 (absentText_shows hlibrary)
      · exact tablePrint_succeeds (textTable_legible (by decide) _ (by decide)) n
    · rw [List.mem_singleton.1 hp]
      exact succeeds_ok _

theorem searchHits_succeeds (n : Nat) (pattern : String)
    (hits : List (String × List String)) :
    ∀ p ∈ searchHits n pattern hits, Succeeds p := by
  intro p hp
  rcases List.mem_append.1 hp with hp | hp
  · exact sectionHead_succeeds n _ p hp
  · rcases List.mem_cons.1 hp with rfl | hp
    · split
      · exact succeeds_message_iff.2 (Quiet.shows (by decide))
      · exact tablePrint_succeeds (textTable_legible (by decide) _ (by simp +decide)) n
    · rw [List.mem_singleton.1 hp]
      exact succeeds_ok _

end ImageImports.Console

import ImageImports.Proofs.Inspection.Told
import ImageImports.Proofs.Success
import ImageImports.Report.Text

/-!
# The layout of text reports

A text report is to be read line by line: a banner around the name of each file, then blocks
of aligned items.  What is said about it here is said of the lines that a reader finds in the
whole text, not of those that it was put together from.

Every item takes a line for each of its values.  Its first line begins with its key, and its
values stand in one column.  The keys and values of a report are wording, except for the path
names of files and, where a file is an image, for the names in it.  None of them is quoted or
cut before it is put into a line.

## Main results

* `text_laid_iff` — a report on scans is laid out as it should be exactly if no name and no
  path name in it has a line feed.
-/

namespace ImageImports.Report

open Inspection (scanFile)
open Text (OneLine oneLine_append_iff oneLine_of_plain oneLine_ofList oneLine_toString_string)

/-! ## Layouts -/

/-- The number of values behind a key. -/
def ItemValue.count : ItemValue → Nat
  | one _ => 1
  | many texts => texts.length

/-- What stands in a line from a column on. -/
def fromColumn (column : Nat) (line : String) : String := String.ofList (line.toList.drop column)

/-- The lines of one item: one for each value, and one where there is none.  The first begins with
the key and the others with blanks, and the values stand below one another. -/
structure ItemLaid (width : Nat) (key : String) (value : ItemValue) (ls : List String) : Prop where
  count : ls.length = max 1 value.count
  key : ∀ first ∈ ls.head?, (key ++ ":").toList <+: first.toList
  indent : ∀ next ∈ ls.tail, (indent width).toList <+: next.toList
  values : ls.map (fromColumn (width + 2)) = value.texts

/-- The lines of one block: two for its title, those of its items, and an empty one. -/
def BlockLaid (title : String) (items : List (String × ItemValue)) (ls : List String) : Prop :=
  ∃ bodies, ls = [title ++ ":", "".pushn '-' (title.length + 1)] ++ bodies.flatten ++ [""]
    ∧ List.Forall₂ (fun item body => ItemLaid (keyWidth items) item.1 item.2 body) items bodies

/-- The image that a scan keeps the analysis of. -/
def image? (scan : Scan) : Option Analysis :=
  match storedAnalysis scan with
  | .ok analysis? => analysis?.filter (·.parsed)
  | .error _ => none

/-- The blocks of the report on one scan, with their titles. -/
def blocks (scan : Scan) : List (String × List (String × ItemValue)) :=
  match image? scan with
  | some a =>
    [("Summary", summaryItems a.info)]
      ++ (if a.sections.isEmpty then [] else [("Sections", a.sections.map sectionItem)])
      ++ [("Import parsing", statusItems a.imports)]
      ++ (if a.imports.libraries.isEmpty then []
          else [("Imports", a.imports.libraries.map libraryItem)])
  | none => [("Summary", [("Status", .one "failed"), ("Message", .one scan.summary)])]

/-- The lines of the report on one scan: the banner and the blocks. -/
def ScanLaid (scan : Scan) (ls : List String) : Prop :=
  ∃ bodies, ls = [banner, scan.target, banner, ""] ++ bodies.flatten
    ∧ List.Forall₂ (fun block body => BlockLaid block.1 block.2 body) (blocks scan) bodies

/-- The lines of the report on some scans; behind the last line feed there is nothing. -/
def Laid (scans : List Scan) (ls : List String) : Prop :=
  ∃ chunks, ls = chunks.flatten ++ [""] ∧ List.Forall₂ ScanLaid scans chunks

/-! ## Lists that stand in a relation piece by piece -/

section

variable {α : Type} {R : α → List String → Prop} {f : α → List String}

/-- If a function gives related lines, so it does for all items of a list. -/
theorem forall₂_map {as : List α} (h : ∀ a ∈ as, R a (f a)) : List.Forall₂ R as (as.map f) := by
  induction as with
  | nil => exact .nil
  | cons a rest ih =>
    exact .cons (h a List.mem_cons_self) (ih fun b hb => h b (List.mem_cons_of_mem a hb))

/-- If related lines are as many as a function gives, so they are for all items of a list. -/
theorem length_flatten_of_forall₂ {as : List α} {bodies : List (List String)}
    (h : List.Forall₂ R as bodies) (hlength : ∀ a body, R a body → body.length = (f a).length) :
    bodies.flatten.length = (as.flatMap f).length := by
  induction h with
  | nil => rfl
  | cons hbody _ ih =>
    rw [List.flatten_cons, List.flatMap_cons, List.length_append, List.length_append, ih,
      hlength _ _ hbody]

end

/-! ## Items -/

theorem ItemValue.length_texts (value : ItemValue) : value.texts.length = max 1 value.count := by
  cases value with
  | one text => rfl
  | many texts =>
    cases texts with
    | nil => rfl
    | cons text rest =>
      show (text :: rest).length = max 1 (text :: rest).length
      rw [List.length_cons]
      omega

/-- The widest of some keys, looked for from a width on, is no less than it or any of them. -/
theorem le_foldl_width (items : List (String × ItemValue)) (width : Nat) :
    width ≤ items.foldl (fun width other => max width other.1.length) width
      ∧ ∀ item ∈ items, item.1.length ≤
        items.foldl (fun width other => max width other.1.length) width := by
  induction items generalizing width with
  | nil => exact ⟨Nat.le_refl width, fun other hother => by cases hother⟩
  | cons first rest ih =>
    obtain ⟨hstart, hrest⟩ := ih (max width first.1.length)
    rw [List.foldl_cons]
    refine ⟨Nat.le_trans (Nat.le_max_left ..) hstart, List.forall_mem_cons.2 ⟨?_, hrest⟩⟩
    exact Nat.le_trans (Nat.le_max_right ..) hstart

theorem length_le_keyWidth {items : List (String × ItemValue)} {item : String × ItemValue}
    (h : item ∈ items) : item.1.length ≤ keyWidth items :=
  (le_foldl_width items 0).2 item h

theorem toList_blanks (n : Nat) : ("".pushn ' ' n).toList = List.replicate n ' ' := by
  rw [String.pushn_eq_repeat_push]
  induction n with
  | zero => rfl
  | succ n ih => rw [Nat.repeat, String.toList_push, ih, List.replicate_succ']

theorem toList_lead (width : Nat) (key : String) : (lead width key).toList =
    key.toList ++ ':' :: ' ' :: List.replicate (width - key.length) ' ' := by
  have hlength : (key ++ ": ").length = key.length + 2 := by
    rw [String.length_append]
    rfl
  rw [lead, Text.padRight, String.toList_append, String.toList_append, toList_blanks, hlength,
    Nat.add_sub_add_right, List.append_assoc]
  rfl

theorem length_lead {width : Nat} {key : String} (hkey : key.length ≤ width) :
    (lead width key).toList.length = width + 2 := by
  rw [toList_lead, List.length_append, List.length_cons, List.length_cons, List.length_replicate,
    String.length_toList]
  omega

theorem length_indent (width : Nat) : (indent width).toList.length = width + 2 := by
  rw [indent, toList_blanks, List.length_replicate]

/-- The lines of an item are laid out, if the column of the values is wide enough. -/
theorem itemLines_laid {width : Nat} {key : String} (hkey : key.length ≤ width)
    (value : ItemValue) : ItemLaid width key value (itemLines width key value) := by
  have hcolumn {front : String} (hfront : front.toList.length = width + 2) (text : String) :
      fromColumn (width + 2) (front ++ text) = text := by
    rw [fromColumn, String.toList_append, List.drop_left' hfront, String.ofList_toList]
  refine ⟨by rw [length_itemLines, value.length_texts], ?_, ?_, ?_⟩
  · intro first hfirst
    rw [itemLines] at hfirst
    split at hfirst
    · cases hfirst
    · next text rest _ =>
      cases hfirst
      rw [String.toList_append, String.toList_append, toList_lead]
      exact ⟨' ' :: (List.replicate (width - key.length) ' ' ++ text.toList), by simp⟩
  · intro next hnext
    rw [itemLines] at hnext
    split at hnext
    · cases hnext
    · obtain ⟨text, -, rfl⟩ := List.mem_map.1 hnext
      rw [String.toList_append]
      exact List.prefix_append _ _
  · rw [itemLines]
    split
    · next hnil =>
      rw [hnil]
      rfl
    · next first rest htexts =>
      rw [htexts, List.map_cons, hcolumn (length_lead hkey), List.map_map]
      have hrest : rest.map (fromColumn (width + 2) ∘ (indent width ++ ·)) = rest :=
        (List.map_congr_left fun text _ => hcolumn (length_indent width) text).trans
          (List.map_id rest)
      rw [hrest]

/-! ## Blocks -/

theorem blockLines_laid (title : String) (items : List (String × ItemValue)) :
    BlockLaid title items (blockLines title items) := by
  refine ⟨items.map fun item => itemLines (keyWidth items) item.1 item.2, ?_, ?_⟩
  · rw [blockLines, List.flatMap_def]
  · exact forall₂_map fun item hitem => itemLines_laid (length_le_keyWidth hitem) item.2

/-- The lines of a block are as many as it is put together from. -/
theorem BlockLaid.length {title : String} {items : List (String × ItemValue)} {ls : List String}
    (h : BlockLaid title items ls) : ls.length = (blockLines title items).length := by
  obtain ⟨bodies, rfl, hbodies⟩ := h
  have hitem (item : String × ItemValue) (body : List String)
      (hbody : ItemLaid (keyWidth items) item.1 item.2 body) :
      body.length = (itemLines (keyWidth items) item.1 item.2).length := by
    rw [hbody.count, length_itemLines, item.2.length_texts]
  rw [blockLines, List.length_append, List.length_append,
    length_flatten_of_forall₂ hbodies hitem, List.length_append, List.length_append]

/-! ## Scans -/

/-- The lines that the report on one scan is put together from. -/
def prescribed (scan : Scan) : List String :=
  [banner, scan.target, banner, ""]
    ++ (blocks scan).flatMap fun block => blockLines block.1 block.2

theorem prescribed_laid (scan : Scan) : ScanLaid scan (prescribed scan) := by
  refine ⟨(blocks scan).map fun block => blockLines block.1 block.2, ?_, ?_⟩
  · rw [prescribed, List.flatMap_def]
  · exact forall₂_map fun block _ => blockLines_laid block.1 block.2

theorem ScanLaid.length {scan : Scan} {ls : List String} (h : ScanLaid scan ls) :
    ls.length = (prescribed scan).length := by
  obtain ⟨bodies, rfl, hbodies⟩ := h
  have hblock (block : String × List (String × ItemValue)) (body : List String)
      (hbody : BlockLaid block.1 block.2 body) :
      body.length = (blockLines block.1 block.2).length := BlockLaid.length hbody
  rw [prescribed, List.length_append, List.length_append,
    length_flatten_of_forall₂ hbodies hblock]

theorem scanLines_eq {scan : Scan} (h : Succeeds (storedAnalysis scan)) :
    scanLines scan = .ok (prescribed scan) := by
  have hfailure : failureLines scan = [("Summary",
      [("Status", ItemValue.one "failed"), ("Message", .one scan.summary)])].flatMap
        fun block => blockLines block.1 block.2 := (List.append_nil _).symm
  obtain ⟨analysis?, h⟩ := h
  rw [scanLines, h]
  refine congrArg (fun body => Except.ok ([banner, scan.target, banner, ""] ++ body)) ?_
  rw [blocks, image?, h]
  cases analysis? with
  | none => exact hfailure
  | some a =>
    cases hparsed : a.parsed with
    | false =>
      simp only [Option.filter_some, hparsed, Bool.false_eq_true, if_false]
      exact hfailure
    | true =>
      simp only [Option.filter_some, hparsed, if_true, imageLines, List.flatMap_append]
      congr 1
      · congr 1
        · congr 1
          · exact (List.append_nil _).symm
          · split
            · rfl
            · exact (List.append_nil _).symm
        · exact (List.append_nil _).symm
      · split
        · rfl
        · exact (List.append_nil _).symm

/-! ## The whole text -/

section

variable {scans : List Scan}

theorem text_eq (h : ∀ scan ∈ scans, Succeeds (storedAnalysis scan)) :
    text scans = .ok (Text.joined (scans.flatMap prescribed)) := by
  have hlines : scans.mapM scanLines = .ok (scans.map prescribed) :=
    mapM_eq_ok_map fun scan hscan => scanLines_eq (h scan hscan)
  rw [text, hlines, List.flatMap_def]
  rfl

theorem Laid.length {ls : List String} (h : Laid scans ls) :
    ls.length = (scans.flatMap prescribed).length + 1 := by
  obtain ⟨chunks, rfl, hchunks⟩ := h
  have hscan (scan : Scan) (chunk : List String) (hchunk : ScanLaid scan chunk) :
      chunk.length = (prescribed scan).length := ScanLaid.length hchunk
  rw [List.length_append, length_flatten_of_forall₂ hchunks hscan]
  rfl

/-- A text is laid out exactly if none of the lines that it is put together from has a line feed:
each would be one line more than there is a place for. -/
theorem laid_joined_iff : Laid scans (Text.lines (Text.joined (scans.flatMap prescribed)))
    ↔ ∀ l ∈ scans.flatMap prescribed, OneLine l := by
  constructor
  · intro h
    exact Text.length_lines_joined_le_iff.1 (Nat.le_of_eq h.length)
  · intro h
    refine ⟨scans.map prescribed, ?_, forall₂_map fun scan _ => prescribed_laid scan⟩
    rw [Text.lines_joined_of_oneLine h, List.flatMap_def]

end

/-! ## Where line feeds come from -/

/-- An item whose key and values take one line each. -/
def Unbroken (item : String × ItemValue) : Prop :=
  OneLine item.1 ∧ ∀ text ∈ item.2.texts, OneLine text

theorem texts_ne_nil (value : ItemValue) : value.texts ≠ [] := by
  intro hnil
  have hlength := value.length_texts
  rw [hnil, List.length_nil] at hlength
  omega

theorem oneLine_itemLines_iff {width : Nat} {item : String × ItemValue} :
    (∀ l ∈ itemLines width item.1 item.2, OneLine l) ↔ Unbroken item := by
  have hblanks (n : Nat) : OneLine ("".pushn ' ' n) :=
    oneLine_of_plain (Wording.wholly_pushn (by decide) n)
  have hlead : OneLine (lead width item.1) ↔ OneLine item.1 := by
    rw [lead, Text.padRight, oneLine_append_iff, oneLine_append_iff]
    constructor
    · rintro ⟨⟨hkey, -⟩, -⟩
      exact hkey
    · intro hkey
      exact ⟨⟨hkey, oneLine_ofList rfl⟩, hblanks _⟩
  rw [itemLines, Unbroken]
  split
  · next hnil => exact absurd hnil (texts_ne_nil item.2)
  · next first rest htexts =>
    rw [htexts, List.forall_mem_cons, List.forall_mem_cons, oneLine_append_iff, hlead,
      List.forall_mem_map, and_assoc]
    simp only [oneLine_append_iff, indent, hblanks, true_and]

theorem oneLine_blockLines_iff {title : String} (htitle : OneLine title)
    {items : List (String × ItemValue)} :
    (∀ l ∈ blockLines title items, OneLine l) ↔ ∀ item ∈ items, Unbroken item := by
  have hrule (n : Nat) : OneLine ("".pushn '-' n) :=
    oneLine_of_plain (Wording.wholly_pushn (by decide) n)
  have hhead : ∀ l ∈ [title ++ ":", "".pushn '-' (title.length + 1)], OneLine l := by
    rw [List.forall_mem_cons, List.forall_mem_singleton, oneLine_append_iff]
    exact ⟨⟨htitle, oneLine_ofList rfl⟩, hrule _⟩
  have hlast : ∀ l ∈ [""], OneLine l := List.forall_mem_singleton.2 (oneLine_ofList rfl)
  rw [blockLines, List.forall_mem_append, List.forall_mem_append]
  constructor
  · rintro ⟨⟨-, hitems⟩, -⟩ item hitem
    exact oneLine_itemLines_iff.1 fun l hl =>
      hitems l (List.mem_flatMap.2 ⟨item, hitem, hl⟩)
  · intro hitems
    refine ⟨⟨hhead, fun l hl => ?_⟩, hlast⟩
    obtain ⟨item, hitem, hl⟩ := List.mem_flatMap.1 hl
    exact oneLine_itemLines_iff.2 (hitems item hitem) l hl

/-! ### The items of a report -/

/-- A key of a few words with a value that takes one line. -/
theorem unbroken_one {key value : String} (hkey : OneLine key) (hvalue : OneLine value) :
    Unbroken (key, .one value) := ⟨hkey, List.forall_mem_singleton.2 hvalue⟩

theorem unbroken_many_iff {key : String} {values : List String} :
    Unbroken (key, .many values) ↔ OneLine key ∧ ∀ value ∈ values, OneLine value := by
  rw [Unbroken]
  refine and_congr_right fun _ => ?_
  cases values with
  | nil =>
    have hmark : ∀ value ∈ [emptyMark], OneLine value :=
      List.forall_mem_singleton.2 (oneLine_ofList rfl)
    exact iff_of_true hmark fun value hvalue => by cases hvalue
  | cons value rest => exact Iff.rfl

/-- The header data is told without names. -/
theorem unbroken_summaryItems {a : Analysis} (h : a.ToldInLines) :
    ∀ item ∈ summaryItems a.info, Unbroken item := by
  have hsize : OneLine (toString a.info.size) := oneLine_of_plain (Wording.plain_intRepr _)
  have hhex (n : Int) : OneLine (Bytes.hexNumber n) := oneLine_of_plain (Wording.plain_hexNumber n)
  have hformat : OneLine a.info.formatName := by
    rw [ImageInfo.formatName]
    split
    · exact oneLine_ofList rfl
    · exact oneLine_ofList rfl
  have hdll : OneLine (if a.info.isDll then "yes" else "no") := by
    split
    · exact oneLine_ofList rfl
    · exact oneLine_ofList rfl
  rw [summaryItems, List.forall_mem_append, List.forall_mem_append]
  refine ⟨⟨?_, ?_⟩, ?_⟩
  · simp only [List.forall_mem_cons]
    refine ⟨unbroken_one (oneLine_ofList rfl) ?_, unbroken_one (oneLine_ofList rfl) h.md5,
      unbroken_one (oneLine_ofList rfl) h.sha256, unbroken_one (oneLine_ofList rfl) h.arch,
      fun item hitem => by cases hitem⟩
    exact oneLine_append_iff.2 ⟨hsize, oneLine_ofList rfl⟩
  · split
    · exact fun item hitem => by cases hitem
    · simp only [List.forall_mem_cons]
      exact ⟨unbroken_one (oneLine_ofList rfl) hformat,
        unbroken_one (oneLine_ofList rfl) h.subsystem, unbroken_one (oneLine_ofList rfl) hdll,
        unbroken_one (oneLine_ofList rfl) (hhex _), unbroken_one (oneLine_ofList rfl) (hhex _),
        fun item hitem => by cases hitem⟩
  · intro item hitem
    obtain ⟨second, -, rfl⟩ := List.mem_map.1 hitem
    have hsecond : OneLine second.text := oneLine_of_plain (Wording.plain_secondText second)
    exact unbroken_one (oneLine_ofList rfl)
      (oneLine_append_iff.2 ⟨hsecond, oneLine_ofList rfl⟩)

/-- A section is told in numbers behind its name. -/
theorem unbroken_sectionItem_iff {s : Section} : Unbroken (sectionItem s) ↔ OneLine s.name := by
  have hhex (n : Int) : OneLine (Bytes.hexNumber n) := oneLine_of_plain (Wording.plain_hexNumber n)
  have hflags : OneLine s.flags := oneLine_of_plain (Wording.plain_flags s)
  have hname : OneLine s.displayName ↔ OneLine s.name := by
    rw [Section.displayName]
    split
    · next hempty =>
      rw [String.isEmpty_iff.1 hempty]
      exact iff_of_true (oneLine_ofList rfl) (oneLine_ofList rfl)
    · exact Iff.rfl
  constructor
  · intro h
    exact hname.1 h.1
  · intro h
    refine unbroken_one (hname.2 h) ?_
    simp only [oneLine_append_iff, oneLine_toString_string, hhex, hflags, and_true]
    exact ⟨⟨⟨⟨oneLine_ofList rfl, oneLine_ofList rfl⟩, oneLine_ofList rfl⟩, oneLine_ofList rfl⟩,
      oneLine_ofList rfl⟩

/-- How the reading went is told with names of libraries at most. -/
theorem unbroken_statusItems {a : Analysis} (h : a.ToldInLines)
    (hnames : ∀ l ∈ a.imports.libraries, OneLine l.name) :
    ∀ item ∈ statusItems a.imports, Unbroken item := by
  obtain ⟨herror, hwarnings⟩ := h.imports hnames
  have hstatus : OneLine a.imports.status := by
    rw [Import.Table.status]
    split
    · exact oneLine_ofList rfl
    · split
      · exact oneLine_ofList rfl
      · next e _ =>
        have hword : OneLine e.kind.word := oneLine_of_plain (Wording.plain_kindWord e.kind)
        simp only [oneLine_append_iff, oneLine_toString_string, hword, and_true]
        exact ⟨oneLine_ofList rfl, oneLine_ofList rfl⟩
  rw [statusItems, List.forall_mem_append, List.forall_mem_append, List.forall_mem_singleton,
    List.forall_mem_singleton]
  refine ⟨⟨unbroken_one (oneLine_ofList rfl) hstatus, ?_⟩,
    unbroken_many_iff.2 ⟨oneLine_ofList rfl, hwarnings⟩⟩
  intro item hitem
  obtain ⟨e, he, rfl⟩ := List.mem_map.1 hitem
  exact unbroken_one (oneLine_ofList rfl) (herror e (Option.mem_toList.1 he))

theorem unbroken_libraryItem_iff {l : Import.Library} :
    Unbroken (libraryItem l) ↔ OneLine l.name ∧ ∀ e ∈ l.entries, OneLine e.label := by
  rw [libraryItem, unbroken_many_iff, List.forall_mem_map]

/-! ### Scans -/

/-- No name in the report on a scan has a line feed: neither the path name of the file nor, where
the file is an image, the name of a section, a library or a symbol. -/
structure NamesUnbroken (scan : Scan) : Prop where
  target : OneLine scan.target
  sections : ∀ a, image? scan = some a → ∀ s ∈ a.sections, OneLine s.name
  libraries : ∀ a, image? scan = some a → ∀ l ∈ a.imports.libraries, OneLine l.name
  symbols : ∀ a, image? scan = some a →
    ∀ l ∈ a.imports.libraries, ∀ e ∈ l.entries, OneLine e.label

theorem oneLine_title {scan : Scan} : ∀ block ∈ blocks scan, OneLine block.1 := by
  have hsome {blocks : List (String × List (String × ItemValue))} {p : Prop} [Decidable p]
      (h : ∀ block ∈ blocks, OneLine block.1) :
      ∀ block ∈ if p then [] else blocks, OneLine block.1 := by
    split
    · exact fun block hblock => by cases hblock
    · exact h
  rw [blocks]
  split
  · rw [List.forall_mem_append, List.forall_mem_append, List.forall_mem_append]
    refine ⟨⟨⟨?_, hsome ?_⟩, ?_⟩, hsome ?_⟩
    · exact List.forall_mem_singleton.2 (oneLine_ofList rfl)
    · exact List.forall_mem_singleton.2 (oneLine_ofList rfl)
    · exact List.forall_mem_singleton.2 (oneLine_ofList rfl)
    · exact List.forall_mem_singleton.2 (oneLine_ofList rfl)
  · exact List.forall_mem_singleton.2 (oneLine_ofList rfl)

/-- The lines about a scan are unbroken if its path name and the items of its blocks are. -/
theorem oneLine_prescribed_iff {scan : Scan} : (∀ l ∈ prescribed scan, OneLine l)
    ↔ OneLine scan.target ∧ ∀ block ∈ blocks scan, ∀ item ∈ block.2, Unbroken item := by
  have hbanner : OneLine banner := oneLine_of_plain (Wording.wholly_pushn (by decide) _)
  rw [prescribed, List.forall_mem_append]
  simp only [List.forall_mem_cons]
  constructor
  · rintro ⟨⟨-, htarget, -⟩, hblocks⟩
    refine ⟨htarget, fun block hblock => ?_⟩
    exact (oneLine_blockLines_iff (oneLine_title block hblock)).1 fun l hl =>
      hblocks l (List.mem_flatMap.2 ⟨block, hblock, hl⟩)
  · rintro ⟨htarget, hblocks⟩
    refine ⟨⟨hbanner, htarget, hbanner, oneLine_ofList rfl, fun l hl => by cases hl⟩, ?_⟩
    intro l hl
    obtain ⟨block, hblock, hl⟩ := List.mem_flatMap.1 hl
    exact (oneLine_blockLines_iff (oneLine_title block hblock)).2 (hblocks block hblock) l hl

/-- In the blocks about an image, only names have line feeds. -/
theorem unbroken_blocks_iff {scan : Scan} {a : Analysis} (himage : image? scan = some a)
    (h : a.ToldInLines) : (∀ block ∈ blocks scan, ∀ item ∈ block.2, Unbroken item)
      ↔ (∀ s ∈ a.sections, OneLine s.name)
        ∧ ∀ l ∈ a.imports.libraries, OneLine l.name ∧ ∀ e ∈ l.entries, OneLine e.label := by
  have hunless {title : String} {α : Type} {as : List α} {f : α → String × ItemValue} :
      (∀ block ∈ if as.isEmpty then [] else [(title, as.map f)], ∀ item ∈ block.2, Unbroken item)
        ↔ ∀ a ∈ as, Unbroken (f a) := by
    cases as with
    | nil => simp
    | cons a rest =>
      show (∀ block ∈ [(title, (a :: rest).map f)], ∀ item ∈ block.2, Unbroken item) ↔ _
      rw [List.forall_mem_singleton, List.forall_mem_map]
  have hsections : (∀ s ∈ a.sections, Unbroken (sectionItem s))
      ↔ ∀ s ∈ a.sections, OneLine s.name :=
    forall₂_congr fun s _ => unbroken_sectionItem_iff
  have hlibraries : (∀ l ∈ a.imports.libraries, Unbroken (libraryItem l))
      ↔ ∀ l ∈ a.imports.libraries, OneLine l.name ∧ ∀ e ∈ l.entries, OneLine e.label :=
    forall₂_congr fun l _ => unbroken_libraryItem_iff
  rw [blocks, himage]
  simp only [List.forall_mem_append, List.forall_mem_singleton, hunless, hsections, hlibraries]
  constructor
  · rintro ⟨⟨⟨-, hs⟩, -⟩, hl⟩
    exact ⟨hs, hl⟩
  · rintro ⟨hs, hl⟩
    exact ⟨⟨⟨unbroken_summaryItems h, hs⟩, unbroken_statusItems h fun l hmem => (hl l hmem).1⟩, hl⟩

theorem namesUnbroken_iff_of_some {scan : Scan} {a : Analysis} (himage : image? scan = some a) :
    NamesUnbroken scan ↔ OneLine scan.target ∧ (∀ s ∈ a.sections, OneLine s.name)
      ∧ ∀ l ∈ a.imports.libraries, OneLine l.name ∧ ∀ e ∈ l.entries, OneLine e.label := by
  constructor
  · intro hnames
    exact ⟨hnames.target, hnames.sections a himage,
      fun l hl => ⟨hnames.libraries a himage l hl, hnames.symbols a himage l hl⟩⟩
  · rintro ⟨htarget, hsections, hlibraries⟩
    refine { target := htarget, sections := ?_, libraries := ?_, symbols := ?_ }
    · rw [himage]
      rintro _ ⟨⟩
      exact hsections
    · rw [himage]
      rintro _ ⟨⟩ l hl
      exact (hlibraries l hl).1
    · rw [himage]
      rintro _ ⟨⟩ l hl
      exact (hlibraries l hl).2

theorem namesUnbroken_iff_of_none {scan : Scan} (himage : image? scan = none) :
    NamesUnbroken scan ↔ OneLine scan.target := by
  have hnone {p : Analysis → Prop} : ∀ a, image? scan = some a → p a := by
    rw [himage]
    exact fun a ha => by cases ha
  exact ⟨NamesUnbroken.target, fun htarget => ⟨htarget, hnone, hnone, hnone⟩⟩

/-- The summary of a scan without an image is of one line, unless the path name is not. -/
theorem oneLine_summary {path : String} {scan : Scan} {analysis? : Option Analysis}
    (h : Inspection.Tells path scan analysis?) (himage : image? scan = none)
    (htarget : OneLine scan.target) : OneLine scan.summary := by
  rw [image?, h.stored] at himage
  cases analysis? with
  | none => exact h.refused rfl (h.target ▸ htarget)
  | some a =>
    refine h.rejected a rfl ?_
    cases hparsed : a.parsed with
    | false => rfl
    | true =>
      simp only [Option.filter_some, hparsed, if_true] at himage
      cases himage

/-- The lines about a scan of a file are unbroken exactly if its names are. -/
theorem oneLine_prescribed_iff_names {path : String} {scan : Scan} {analysis? : Option Analysis}
    (h : Inspection.Tells path scan analysis?) :
    (∀ l ∈ prescribed scan, OneLine l) ↔ NamesUnbroken scan := by
  rw [oneLine_prescribed_iff]
  cases hfound : image? scan with
  | some a =>
    have hstored := hfound
    rw [image?, h.stored] at hstored
    obtain ⟨ha, -⟩ := Option.filter_eq_some_iff.1 hstored
    rw [namesUnbroken_iff_of_some hfound, unbroken_blocks_iff hfound (h.analysed a ha)]
  | none =>
    rw [namesUnbroken_iff_of_none hfound, blocks, hfound]
    simp only [List.forall_mem_singleton, List.forall_mem_cons]
    refine and_iff_left_of_imp fun htarget => ?_
    exact ⟨unbroken_one (oneLine_ofList rfl) (oneLine_ofList rfl),
      unbroken_one (oneLine_ofList rfl) (oneLine_summary h hfound htarget)⟩

/-- A report on scans of files, made under any settings, is laid out as it should be exactly if no
path name, no name of a section, no name of a library and no name of a symbol in it has a line
feed: the report puts names into its lines as they are. -/
theorem text_laid_iff {scans : List Scan}
    (h : ∀ scan ∈ scans, ∃ settings files now path,
      scanFile settings files now path = .ok scan) :
    ∃ report, text scans = .ok report
      ∧ (Laid scans (Text.lines report) ↔ ∀ scan ∈ scans, NamesUnbroken scan) := by
  have htold : ∀ scan ∈ scans, ∃ path analysis?, Inspection.Tells path scan analysis? := by
    intro scan hscan
    obtain ⟨settings, files, now, path, hmade⟩ := h scan hscan
    exact ⟨path, Inspection.scanFile_told hmade⟩
  have hstored : ∀ scan ∈ scans, Succeeds (storedAnalysis scan) := by
    intro scan hscan
    obtain ⟨path, analysis?, htells⟩ := htold scan hscan
    exact ⟨analysis?, htells.stored⟩
  refine ⟨_, text_eq hstored, ?_⟩
  rw [laid_joined_iff]
  constructor
  · intro hlines scan hscan
    obtain ⟨path, analysis?, htells⟩ := htold scan hscan
    exact (oneLine_prescribed_iff_names htells).1 fun l hl =>
      hlines l (List.mem_flatMap.2 ⟨scan, hscan, hl⟩)
  · intro hnames l hl
    obtain ⟨scan, hscan, hl⟩ := List.mem_flatMap.1 hl
    obtain ⟨path, analysis?, htells⟩ := htold scan hscan
    exact (oneLine_prescribed_iff_names htells).2 (hnames scan hscan) l hl

/-! ### A section named on two lines -/

/-- An image with one section of that name, and no imports. -/
def imageNamed (name : Array UInt8) : ByteArray :=
  ⟨#[0x4d, 0x5a] ++ Array.replicate 58 0 ++ #[
    0x40, 0, 0, 0, 0x50, 0x45, 0, 0,
    0x4c, 1, 1, 0, 0, 0, 0, 0x5f, 0, 0, 0, 0, 0, 0, 0, 0, 0, 0, 2, 1] ++ name ++ #[
    0, 0x10, 0, 0, 0, 0x10, 0, 0, 0, 2, 0, 0, 0x80, 0, 0, 0,
    0, 0, 0, 0, 0, 0, 0, 0, 0, 0, 0, 0, 0x20, 0, 0, 0x60]⟩

/-- An image with a section `text`. -/
def wholeImage : ByteArray := imageNamed #[0x74, 0x65, 0x78, 0x74, 0, 0, 0, 0]

/-- An image with a section whose name is `a` on one line and `b` on the next. -/
def brokenImage : ByteArray := imageNamed #[0x61, 0x0a, 0x62, 0, 0, 0, 0, 0]

/-- A place with both images. -/
def namedFiles : Files where
  home := []
  entries := [(["whole"], .file wholeImage), (["broken"], .file brokenImage)]

/-- The report on the first image is laid out as it should be, and the one on the second is not. -/
theorem text_laid_sample :
    let span : Calendar.Span := ⟨⟨0, some 0⟩, 0⟩
    (∃ scan report, scanFile .default namedFiles span "whole" = .ok scan
        ∧ text [scan] = .ok report ∧ Laid [scan] (Text.lines report))
      ∧ ∃ scan report, scanFile .default namedFiles span "broken" = .ok scan
        ∧ text [scan] = .ok report ∧ ¬ Laid [scan] (Text.lines report) := by
  intro span
  have hwhole : (Inspection.analysisAt? namedFiles "whole").map
      (fun a => (a.sections.map (·.name), a.imports.libraries)) = some (["text"], []) := by
    decide +kernel
  have hbroken : (Inspection.analysisAt? namedFiles "broken").map
      (fun a => (a.parsed, a.sections.map (·.name))) = some (true, ["a\nb"]) := by
    decide +kernel
  have hreport (path : String) (bytes : ByteArray) (hread : namedFiles.read? path = some bytes) :
      ∃ scan report, scanFile .default namedFiles span path = .ok scan
        ∧ scan.target = path
        ∧ image? scan = (Inspection.analysisAt? namedFiles path).filter (·.parsed)
        ∧ text [scan] = .ok report
        ∧ (Laid [scan] (Text.lines report) ↔ NamesUnbroken scan) := by
    obtain ⟨scan, hscan, haccounts⟩ := Inspection.scanFile_default span hread
    obtain ⟨report, htext, hlaid⟩ := @text_laid_iff [scan]
      (List.forall_mem_singleton.2 ⟨_, _, _, _, hscan⟩)
    rw [List.forall_mem_singleton] at hlaid
    exact ⟨scan, report, hscan, haccounts.target, by rw [image?, haccounts.stored], htext, hlaid⟩
  constructor
  · obtain ⟨scan, report, hscan, htarget, himage, htext, hlaid⟩ :=
      hreport "whole" wholeImage (by decide +kernel)
    refine ⟨scan, report, hscan, htext, hlaid.2 ?_⟩
    obtain ⟨a, ha, hnames⟩ := Option.map_eq_some_iff.1 hwhole
    obtain ⟨hsections, hlibraries⟩ := Prod.mk.inj hnames
    have honly {found : Analysis} (hfound : image? scan = some found) : found = a := by
      rw [himage, ha] at hfound
      exact (Option.some.inj (Option.filter_eq_some_iff.1 hfound).1).symm
    refine ⟨by rw [htarget]; decide, ?_, ?_, ?_⟩
    · intro found hfound s hs
      have hname : s.name ∈ ["text"] := by
        rw [← hsections, ← honly hfound]
        exact List.mem_map_of_mem hs
      rw [List.mem_singleton.1 hname]
      decide
    · intro found hfound l hl
      rw [honly hfound, hlibraries] at hl
      cases hl
    · intro found hfound l hl
      rw [honly hfound, hlibraries] at hl
      cases hl
  · obtain ⟨scan, report, hscan, -, himage, htext, hlaid⟩ :=
      hreport "broken" brokenImage (by decide +kernel)
    refine ⟨scan, report, hscan, htext, fun h => ?_⟩
    obtain ⟨a, ha, hnames⟩ := Option.map_eq_some_iff.1 hbroken
    obtain ⟨hparsed, hsections⟩ := Prod.mk.inj hnames
    have hfound : image? scan = some a := by
      rw [himage, ha, Option.filter_some, if_pos hparsed]
    have hname : "a\nb" ∈ a.sections.map (·.name) := by
      rw [hsections]
      exact List.mem_singleton_self _
    obtain ⟨s, hs, hs'⟩ := List.mem_map.1 hname
    have hone := (hlaid.1 h).sections a hfound s hs
    rw [hs'] at hone
    exact absurd hone (by decide)

end ImageImports.Report

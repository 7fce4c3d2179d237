import Mathlib.Data.String.Basic
import ImageImports.Files

/-!
# Tidy path names

The tidy form of a path name leaves out parts that name nothing.  It is no longer than the
path name and starts at the root exactly when the path name does, so whoever follows the
path name to a file finds the same file under the tidy form.  The converse does not hold:
an empty part stays in the directory before it, and what stands there may be a file.

## Main results

* `PathName.parts_tidy` — the parts of a tidy path name, in terms of those of the path
  name.
* `Files.openFile_tidy` — a file that can be read can be opened under the tidy path name.
-/

namespace ImageImports

/-! ## Pieces between separators -/

namespace Text

variable {p : Char → Bool}

theorem splitList_ne_nil (cs : List Char) : splitList p cs ≠ [] := by
  cases cs with
  | nil => simp [splitList]
  | cons c rest =>
    rw [splitList]
    split
    · simp
    · split <;> simp

/-- No piece holds a separator. -/
theorem not_mem_splitList {cs piece : List Char} (h : piece ∈ splitList p cs) :
    ∀ c ∈ piece, p c = false := by
  induction cs generalizing piece with
  | nil =>
    intro c hc
    rw [splitList, List.mem_singleton] at h
    rw [h] at hc
    cases hc
  | cons d rest ih =>
    intro c hc
    rw [splitList] at h
    split at h
    · rcases List.mem_cons.1 h with rfl | h
      · cases hc
      · exact ih h c hc
    · next hd =>
      have hdrop : p d = false := by simpa using hd
      split at h
      · next first more heq =>
        rcases List.mem_cons.1 h with rfl | h
        · rcases List.mem_cons.1 hc with rfl | hc
          · exact hdrop
          · exact ih (by rw [heq]; exact List.mem_cons_self) c hc
        · exact ih (by rw [heq]; exact List.mem_cons_of_mem first h) c hc
      · rw [List.mem_singleton] at h
        rw [h, List.mem_singleton] at hc
        rw [hc, hdrop]

/-- The pieces with their separators between them are the text. -/
theorem intercalate_splitList (d : Char) (cs : List Char) :
    [d].intercalate (splitList (· = d) cs) = cs := by
  induction cs with
  | nil => rfl
  | cons c rest ih =>
    rw [splitList]
    split
    · next hc =>
      rw [List.intercalate_cons_of_ne_nil (splitList_ne_nil rest), ih,
        of_decide_eq_true hc]
      rfl
    · split
      · next first more heq =>
        rw [List.intercalate_cons_cons_left, ← heq, ih]
      · next heq => exact absurd heq (splitList_ne_nil rest)

/-- A text without separators is one piece. -/
theorem splitList_piece {piece : List Char} (h : ∀ c ∈ piece, p c = false) :
    splitList p piece = [piece] := by
  induction piece with
  | nil => rfl
  | cons c rest ih =>
    rw [splitList, h c List.mem_cons_self, ih fun d hd => h d (List.mem_cons_of_mem c hd)]
    rfl

/-- What stands before the first separator is the first piece. -/
theorem splitList_piece_append {piece : List Char} (h : ∀ c ∈ piece, p c = false)
    {d : Char} (hd : p d = true) (rest : List Char) :
    splitList p (piece ++ d :: rest) = piece :: splitList p rest := by
  induction piece with
  | nil =>
    rw [List.nil_append, splitList, if_pos hd]
  | cons c more ih =>
    rw [List.cons_append, splitList, h c List.mem_cons_self,
      ih fun e he => h e (List.mem_cons_of_mem c he)]
    rfl

/-- Pieces that are joined by a separator are parted by it again. -/
theorem splitList_intercalate {d : Char} {pieces : List (List Char)} (hne : pieces ≠ [])
    (h : ∀ piece ∈ pieces, d ∉ piece) :
    splitList (· = d) ([d].intercalate pieces) = pieces := by
  have hpiece {piece : List Char} (hd : d ∉ piece) :
      ∀ c ∈ piece, decide (c = d) = false := by
    intro c hc
    exact decide_eq_false fun heq => hd (heq ▸ hc)
  induction pieces with
  | nil => exact absurd rfl hne
  | cons first rest ih =>
    have hfirst := hpiece (h first List.mem_cons_self)
    cases rest with
    | nil =>
      rw [List.intercalate_singleton]
      exact splitList_piece hfirst
    | cons second more =>
      rw [List.intercalate_cons_cons, List.append_assoc, List.singleton_append,
        splitList_piece_append hfirst (decide_eq_true rfl),
        ih (List.cons_ne_nil second more) fun piece hp =>
          h piece (List.mem_cons_of_mem first hp)]

/-- Leaving pieces out leaves characters out. -/
theorem intercalate_sublist (separator : List Char) {few many : List (List Char)}
    (h : few.Sublist many) :
    (separator.intercalate few).Sublist (separator.intercalate many) := by
  induction h with
  | slnil => exact List.Sublist.refl _
  | @cons few many piece h ih =>
    by_cases hnil : many = []
    · rw [hnil, List.sublist_nil] at h
      rw [h]
      exact List.nil_sublist _
    · rw [List.intercalate_cons_of_ne_nil hnil]
      exact ih.trans (List.sublist_append_right _ _)
  | @cons_cons few many piece h ih =>
    by_cases hmany : many = []
    · rw [hmany, List.sublist_nil] at h
      rw [h, hmany]
    · rw [List.intercalate_cons_of_ne_nil hmany]
      by_cases hfew : few = []
      · rw [hfew, List.intercalate_singleton, List.append_assoc]
        exact List.sublist_append_left _ _
      · rw [List.intercalate_cons_of_ne_nil hfew]
        exact (List.Sublist.refl _).append ih

end Text

/-! ## Parts of path names -/

namespace PathName

theorem not_mem_parts {path part : String} (h : part ∈ parts path) :
    '/' ∉ part.toList := by
  obtain ⟨piece, hpiece, rfl⟩ := List.mem_map.1 h
  rw [String.toList_ofList]
  intro hmem
  exact of_decide_eq_false (Text.not_mem_splitList hpiece '/' hmem) rfl

theorem parts_ne_nil (path : String) : parts path ≠ [] := by
  rw [parts, ne_eq, List.map_eq_nil_iff]
  exact Text.splitList_ne_nil _

theorem parts_slash (path : String) : parts ("/" ++ path) = "" :: parts path := by
  rw [parts, String.toList_append]
  rfl

/-- Parts that are joined by slashes are parted again. -/
theorem parts_intercalate {ps : List String} (hne : ps ≠ [])
    (h : ∀ p ∈ ps, '/' ∉ p.toList) :
    parts ("/".intercalate ps) = ps := by
  have hslash : "/".toList = ['/'] := rfl
  have hpieces : ∀ piece ∈ ps.map String.toList, '/' ∉ piece := by
    intro piece hpiece
    obtain ⟨p, hp, rfl⟩ := List.mem_map.1 hpiece
    exact h p hp
  have hmap : ps.map String.toList ≠ [] := fun hnil => hne (List.map_eq_nil_iff.1 hnil)
  rw [parts, String.toList_intercalate, hslash, Text.splitList_intercalate hmap hpieces,
    List.map_map]
  exact (List.map_congr_left fun p _ => String.ofList_toList).trans (List.map_id ps)

theorem ne_empty_of_mem_tidyParts {ps : List String} {p : String} (h : p ∈ tidyParts ps) :
    p ≠ "" := by
  have hp := (List.mem_filter.1 h).2
  exact (of_decide_eq_true hp).1

/-- The parts that name something, joined, are left of the characters of the path name. -/
theorem intercalate_tidyParts_sublist (path : String) :
    ("/".intercalate (tidyParts (parts path))).toList.Sublist path.toList := by
  have hslash : "/".toList = ['/'] := rfl
  have hback : (parts path).map String.toList = Text.splitList (· = '/') path.toList := by
    rw [parts, List.map_map]
    exact (List.map_congr_left fun piece _ => String.toList_ofList).trans (List.map_id _)
  have hsublist : ((tidyParts (parts path)).map String.toList).Sublist
      (Text.splitList (· = '/') path.toList) := by
    rw [← hback]
    exact List.filter_sublist.map String.toList
  rw [String.toList_intercalate, hslash]
  have hjoined := Text.intercalate_sublist ['/'] hsublist
  rwa [Text.intercalate_splitList] at hjoined

/-- What stands for the root stands at the front of the path name, and no part is lost
with it. -/
theorem exists_behind_root (path : String) :
    ∃ rest, path = root path ++ rest
      ∧ tidyParts (parts path) = tidyParts (parts rest) := by
  have hslash (rest : String) :
      tidyParts (parts ("/" ++ rest)) = tidyParts (parts rest) := by
    rw [parts_slash]
    rfl
  have hbehind {lead : String} (h : path.startsWith lead = true) :
      ∃ rest, path = lead ++ rest := by
    obtain ⟨cs, hcs⟩ := String.startsWith_string_iff.1 h
    refine ⟨String.ofList cs, String.toList_inj.1 ?_⟩
    rw [String.toList_append, String.toList_ofList, hcs]
  rw [root]
  split
  · next h =>
    obtain ⟨rest, hrest⟩ := hbehind h.1
    have htwo : path = "/" ++ ("/" ++ rest) := by
      rw [← String.append_assoc, hrest]
      rfl
    refine ⟨rest, hrest, ?_⟩
    rw [htwo, hslash, hslash]
  · split
    · next h =>
      obtain ⟨rest, hrest⟩ := hbehind h
      refine ⟨rest, hrest, ?_⟩
      rw [hrest, hslash]
    · exact ⟨path, String.empty_append.symm, rfl⟩

/-- One slash or two stand for the root of a path name that starts there, and nothing for
that of any other. -/
theorem root_cases (path : String) :
    (isAbsolute path = true ∧ (root path = "/" ∨ root path = "//"))
      ∨ (isAbsolute path = false ∧ root path = "") := by
  have hone {path : String} (h : path.startsWith "//" = true) : isAbsolute path = true := by
    have hslash : "/".toList <+: "//".toList := ⟨['/'], rfl⟩
    exact String.startsWith_string_iff.2 (hslash.trans (String.startsWith_string_iff.1 h))
  rw [root]
  split
  · next h => exact .inl ⟨hone h.1, .inr rfl⟩
  · split
    · next h => exact .inl ⟨h, .inl rfl⟩
    · next h => exact .inr ⟨Bool.eq_false_of_not_eq_true h, rfl⟩

/-- Slashes at the front are parts without characters. -/
theorem parts_root_append (path rest : String) :
    ∃ k, parts (root path ++ rest) = List.replicate k "" ++ parts rest := by
  have htwo : "//" ++ rest = "/" ++ ("/" ++ rest) := by
    rw [← String.append_assoc]
    rfl
  rw [root]
  split
  · exact ⟨2, by rw [htwo, parts_slash, parts_slash]; rfl⟩
  · split
    · exact ⟨1, by rw [parts_slash]; rfl⟩
    · exact ⟨0, by rw [String.empty_append]; rfl⟩

/-! ## The tidy form -/

theorem tidy_ne_empty (path : String) : tidy path ≠ "" := by
  rw [tidy]
  split
  · decide
  · next hbody => exact fun hempty => hbody (String.isEmpty_iff.2 hempty)

section

variable {path : String} (hne : tidyParts (parts path) ≠ [])

include hne

theorem tidy_eq : tidy path = root path ++ "/".intercalate (tidyParts (parts path)) := by
  have hbody : (root path ++ "/".intercalate (tidyParts (parts path))).isEmpty =
      false := by
    rw [String.isEmpty_eq_false_iff]
    intro hempty
    have hjoined := (String.append_eq_empty_iff.1 hempty).2
    have hparts := parts_intercalate hne fun p hp =>
      not_mem_parts (List.mem_filter.1 hp).1
    have hmem : "" ∈ tidyParts (parts path) := by
      rw [← hparts, hjoined]
      exact List.mem_singleton.2 rfl
    exact ne_empty_of_mem_tidyParts hmem rfl
  rw [tidy]
  simp only [hbody]
  rfl

/-- The parts of a tidy path name are those that name something, behind the slashes of the
root. -/
theorem parts_tidy : ∃ k, parts (tidy path) =
    List.replicate k "" ++ tidyParts (parts path) := by
  obtain ⟨k, hk⟩ := parts_root_append path ("/".intercalate (tidyParts (parts path)))
  refine ⟨k, ?_⟩
  rw [tidy_eq hne, hk, parts_intercalate hne fun p hp =>
    not_mem_parts (List.mem_filter.1 hp).1]

theorem tidy_sublist : (tidy path).toList.Sublist path.toList := by
  obtain ⟨rest, hrest, hparts⟩ := exists_behind_root path
  have htidy : (tidy path).toList =
      (root path).toList ++ ("/".intercalate (tidyParts (parts rest))).toList := by
    rw [tidy_eq hne, String.toList_append, hparts]
  have hpath : path.toList = (root path).toList ++ rest.toList := by
    rw [← String.toList_append, ← hrest]
  rw [htidy, hpath]
  exact (List.Sublist.refl _).append (intercalate_tidyParts_sublist rest)

theorem isLong_tidy (h : isLong path = false) : isLong (tidy path) = false := by
  have hsize := String.utf8Len_le_of_sublist (tidy_sublist hne)
  rw [String.utf8Len_toList, String.utf8Len_toList] at hsize
  have hpath : ¬ maxBytes < path.utf8ByteSize := of_decide_eq_false h
  exact decide_eq_false (by omega)

/-- A tidy path name starts at the root when the path name does. -/
theorem isAbsolute_tidy : isAbsolute (tidy path) = isAbsolute path := by
  rw [tidy_eq hne]
  rcases root_cases path with ⟨habsolute, hroot⟩ | ⟨hrelative, hroot⟩
  · have hmore : ∃ more, root path = "/" ++ more := by
      rcases hroot with hroot | hroot
      · exact ⟨"", hroot⟩
      · exact ⟨"/", hroot⟩
    obtain ⟨more, hmore⟩ := hmore
    rw [habsolute, hmore, isAbsolute, String.startsWith_string_iff, String.toList_append,
      String.toList_append, List.append_assoc]
    exact List.prefix_append _ _
  · have hjoined : ¬ isAbsolute ("/".intercalate (tidyParts (parts path))) = true := by
      intro h
      obtain ⟨cs, hcs⟩ := String.startsWith_string_iff.1 h
      have hjoined : "/".intercalate (tidyParts (parts path)) =
          "/" ++ String.ofList cs := by
        apply String.toList_inj.1
        rw [← hcs, String.toList_append]
        exact congrArg _ String.toList_ofList.symm
      have hparts := parts_intercalate hne fun p hp =>
        not_mem_parts (List.mem_filter.1 hp).1
      have hmem : "" ∈ tidyParts (parts path) := by
        rw [← hparts, hjoined, parts_slash]
        exact List.mem_cons_self
      exact ne_empty_of_mem_tidyParts hmem rfl
    rw [hroot, String.empty_append, Bool.eq_false_of_not_eq_true hjoined, hrelative]

end

/-- A tidy path name leads where the path name leads. -/
theorem resolve_tidy (home : List String) (path : String) :
    resolve home (tidy path) = resolve home path := by
  by_cases hne : tidyParts (parts path) = []
  · -- Nothing is left but the root, or a dot for home.
    rw [resolve, resolve, hne]
    rcases root_cases path with ⟨habsolute, hroot | hroot⟩ | ⟨hrelative, hroot⟩
    · have htidy : tidy path = "/" := by rw [tidy, hne, hroot]; rfl
      have hbare : isAbsolute "/" = true ∧ tidyParts (parts "/") = [] := by decide +kernel
      rw [htidy, hbare.1, hbare.2, habsolute]
    · have htidy : tidy path = "//" := by rw [tidy, hne, hroot]; rfl
      have hbare : isAbsolute "//" = true ∧ tidyParts (parts "//") = [] := by decide +kernel
      rw [htidy, hbare.1, hbare.2, habsolute]
    · have htidy : tidy path = "." := by rw [tidy, hne, hroot]; rfl
      have hbare : isAbsolute "." = false ∧ tidyParts (parts ".") = [] := by decide +kernel
      rw [htidy, hbare.1, hbare.2, hrelative]
  · obtain ⟨k, hk⟩ := parts_tidy hne
    have hblank : tidyParts (List.replicate k "") = [] := by
      simp [tidyParts]
    have hparts : tidyParts (parts (tidy path)) = tidyParts (parts path) := by
      rw [hk, tidyParts, List.filter_append, ← tidyParts, ← tidyParts, hblank, tidyParts_tidyParts,
        List.nil_append]
    rw [resolve, resolve, hparts, isAbsolute_tidy hne]

end PathName

/-! ## Following a tidy path name -/

namespace Files

open PathName

variable {files : Files} {place there : List String}

/-- Whoever follows parts begins in a directory. -/
theorem at?_of_walk {ps : List String} (hne : ps ≠ [])
    (h : files.walk place ps = .ok there) :
    files.at? place = some .directory := by
  cases ps with
  | nil => exact absurd rfl hne
  | cons p rest =>
    rw [walk] at h
    split at h
    · cases h
    · cases h
    · cases h
    · next hplace => exact hplace

/-- Parts that name nothing can be left out. -/
theorem walk_tidyParts {ps : List String} (h : files.walk place ps = .ok there) :
    files.walk place (tidyParts ps) = .ok there := by
  induction ps generalizing place with
  | nil => exact h
  | cons p rest ih =>
    have hplace := at?_of_walk (List.cons_ne_nil p rest) h
    rw [walk, hplace] at h
    simp only at h
    by_cases hidle : p = "" ∨ p = "."
    · have hdrop : tidyParts (p :: rest) = tidyParts rest := by
        rcases hidle with rfl | rfl <;> rfl
      rw [if_pos hidle] at h
      rw [hdrop]
      exact ih h
    · have hkeep : tidyParts (p :: rest) = p :: tidyParts rest := by
        exact List.filter_cons_of_pos (decide_eq_true (not_or.1 hidle))
      rw [if_neg hidle] at h
      rw [hkeep, walk, hplace]
      simp only [if_neg hidle]
      by_cases hout : p = ".."
      · rw [if_pos hout] at h ⊢
        exact ih h
      · rw [if_neg hout] at h ⊢
        split at h
        · cases h
        · next hshort =>
          rw [if_neg hshort]
          exact ih h

/-- Parts without characters lead nowhere from a directory. -/
theorem walk_replicate (hplace : files.at? place = some .directory) (k : Nat)
    (ps : List String) :
    files.walk place (List.replicate k "" ++ ps) = files.walk place ps := by
  induction k with
  | zero => rfl
  | succ k ih =>
    rw [List.replicate_succ, List.cons_append, walk, hplace]
    exact ih

/-- Where a path name leads to a file, something in it names that file. -/
theorem tidyParts_ne_nil_of_walk {ps : List String} (hne : ps ≠ [])
    (h : files.walk place ps = .ok there) (hthere : files.at? there ≠ some .directory) :
    tidyParts ps ≠ [] := by
  intro hnil
  have hwalk := walk_tidyParts h
  rw [hnil, walk] at hwalk
  cases hwalk
  exact hthere (at?_of_walk hne h)

theorem reach_eq_ok_iff {path : String} {node : FileNode} :
    files.reach path = .ok (there, node) ↔
      (¬ path.isEmpty = true ∧ ¬ path.toList.contains '\x00' = true) ∧ isLong path = false
        ∧ files.walk (if isAbsolute path then [] else files.home) (parts path) = .ok there
        ∧ files.at? there = some node := by
  rw [reach]
  by_cases hplain : path.isEmpty = true ∨ path.toList.contains '\x00' = true
  · rw [if_pos hplain]
    exact iff_of_false (fun h => by cases h) (fun h => (not_or.2 h.1) hplain)
  · rw [if_neg hplain]
    by_cases hlong : isLong path = true
    · rw [if_pos hlong]
      refine iff_of_false (fun h => by cases h) (fun h => ?_)
      rw [h.2.1] at hlong
      cases hlong
    · rw [if_neg hlong]
      constructor
      · intro h
        cases hwalk : files.walk (if isAbsolute path then []
          else files.home) (parts path) with
        | error fault =>
          rw [hwalk] at h
          cases h
        | ok place =>
          rw [hwalk] at h
          simp only [Except.bind] at h
          split at h
          · next hnode =>
            cases h
            exact ⟨not_or.1 hplain, Bool.eq_false_of_not_eq_true hlong, rfl, hnode⟩
          · cases h
      · rintro ⟨-, -, hwalk, hnode⟩
        rw [hwalk]
        simp only [Except.bind, hnode]

theorem read?_eq_some_iff {path : String} {bytes : ByteArray} :
    files.read? path = some bytes ↔
      ∃ there, files.reach path = .ok (there, .file bytes) := by
  rw [read?, find?]
  cases files.reach path with
  | error fault => exact iff_of_false (fun h => by cases h) (fun ⟨there, h⟩ => by cases h)
  | ok found =>
    obtain ⟨there, node⟩ := found
    cases node with
    | directory => exact iff_of_false (fun h => by cases h) (fun ⟨there, h⟩ => by cases h)
    | locked size => exact iff_of_false (fun h => by cases h) (fun ⟨there, h⟩ => by cases h)
    | file found =>
      constructor
      · intro h
        cases h
        exact ⟨there, rfl⟩
      · rintro ⟨there, h⟩
        cases h
        rfl

/-- A file that a path name leads to is opened under the tidy path name. -/
theorem openFile_tidy {path : String} {bytes : ByteArray}
    (h : files.read? path = some bytes) :
    files.openFile (tidy path) = .ok bytes := by
  obtain ⟨there, hreach⟩ := read?_eq_some_iff.1 h
  obtain ⟨⟨-, hzero⟩, hlong, hwalk, hnode⟩ := reach_eq_ok_iff.1 hreach
  have hfile : files.at? there ≠ some .directory := by
    rw [hnode]
    intro heq
    cases heq
  have hne := tidyParts_ne_nil_of_walk (parts_ne_nil path) hwalk hfile
  have hplain : ¬ (tidy path).toList.contains '\x00' = true := by
    rw [List.contains_iff_mem] at hzero ⊢
    exact fun hmem => hzero ((tidy_sublist hne).subset hmem)
  have hfull : ¬ (tidy path).isEmpty = true :=
    fun hempty => tidy_ne_empty path (String.isEmpty_iff.1 hempty)
  have htidy : files.reach (tidy path) = .ok (there, .file bytes) := by
    refine reach_eq_ok_iff.2 ⟨⟨hfull, hplain⟩, isLong_tidy hne hlong, ?_, hnode⟩
    obtain ⟨k, hk⟩ := parts_tidy hne
    rw [isAbsolute_tidy hne, hk, walk_replicate (at?_of_walk (parts_ne_nil path) hwalk)]
    exact walk_tidyParts hwalk
  rw [openFile, if_neg hplain, htidy]

/-! ## Where path names lead -/

/-- Who gets to the end of a path name is where its parts lead. -/
theorem eq_follow_of_walk {ps : List String} (h : files.walk place ps = .ok there) :
    there = follow place (tidyParts ps) := by
  have hwalk := walk_tidyParts h
  have hparts : ∀ p ∈ tidyParts ps, ¬ (p = "" ∨ p = ".") := by
    intro p hp
    exact not_or.2 (of_decide_eq_true (List.mem_filter.1 hp).2)
  -- None of the tidied parts stays where it is, and that is all the induction needs of them.
  revert hparts hwalk
  generalize tidyParts ps = tidied
  clear h
  induction tidied generalizing place with
  | nil =>
    rintro ⟨⟩ -
    rfl
  | cons p rest ih =>
    intro hwalk hparts
    have hrest : ∀ q ∈ rest, ¬ (q = "" ∨ q = ".") :=
      fun q hq => hparts q (List.mem_cons_of_mem p hq)
    rw [walk, at?_of_walk (List.cons_ne_nil p rest) hwalk] at hwalk
    simp only [if_neg (hparts p List.mem_cons_self)] at hwalk
    rw [follow]
    by_cases hout : p = ".."
    · rw [if_pos hout] at hwalk ⊢
      exact ih hwalk hrest
    · rw [if_neg hout] at hwalk ⊢
      split at hwalk
      · cases hwalk
      · exact ih hwalk hrest

/-- What a path name finds is at the place that it leads to. -/
theorem at?_of_find? {path : String} {node : FileNode}
    (h : files.find? path = some (there, node)) :
    files.at? (resolve files.home path) = some node := by
  have hreach : files.reach path = .ok (there, node) := by
    rw [find?] at h
    cases hfound : files.reach path with
    | error fault =>
      rw [hfound] at h
      cases h
    | ok found =>
      rw [hfound] at h
      cases h
      rfl
  obtain ⟨-, -, hwalk, hnode⟩ := reach_eq_ok_iff.1 hreach
  rw [resolve, ← eq_follow_of_walk hwalk]
  exact hnode

end Files

end ImageImports

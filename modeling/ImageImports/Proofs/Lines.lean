import ImageImports.Proofs.PathName
import ImageImports.Proofs.Wording

/-!
# Texts as lines

A text that is put together line by line, every line ended by a line feed, comes apart into
these lines again exactly when none of them holds a line feed of its own.  Otherwise it comes
apart into more lines than it was put together from.

## Main results

* `lines_joined` — the lines of such a text are the lines of its lines, and an empty one.
* `length_lines_joined_le_iff` — there are no more of them exactly if no line breaks.
-/

namespace ImageImports.Text

/-! ## One line -/

/-- A text without line feeds. -/
def OneLine (s : String) : Prop := '\n' ∉ s.toList

theorem oneLine_iff_all {s : String} : OneLine s ↔ s.toList.all (· != '\n') = true := by
  rw [OneLine, List.all_eq_true]
  constructor
  · intro h c hc
    exact bne_iff_ne.2 fun heq => h (heq ▸ hc)
  · intro h hfeed
    exact bne_iff_ne.1 (h '\n' hfeed) rfl

instance (s : String) : Decidable (OneLine s) := decidable_of_iff _ oneLine_iff_all.symm

@[simp] theorem oneLine_append_iff {s t : String} :
    OneLine (s ++ t) ↔ OneLine s ∧ OneLine t := by
  rw [OneLine, String.toList_append, List.mem_append, not_or, OneLine, OneLine]

@[simp] theorem oneLine_toString_string {s : String} : OneLine (toString s) ↔ OneLine s := Iff.rfl

/-- A text that is given character by character; a fixed text is looked through this way. -/
theorem oneLine_ofList {cs : List Char} (h : cs.all (· != '\n') = true) :
    OneLine (String.ofList cs) := by
  rw [oneLine_iff_all, String.toList_ofList]
  exact h

/-- Wording takes one line. -/
theorem oneLine_of_plain {s : String} (h : Wording.Plain s) : OneLine s := by
  intro hfeed
  have hplain := h.forall '\n' hfeed
  exact absurd hplain (by decide)

theorem oneLine_quoted (s : String) : OneLine (quoted s) :=
  fun hfeed => (Wording.mem_of_mem_quoted (by decide) hfeed).2 rfl

/-! ## Lines -/

/-- A text on both sides of a separator comes apart there. -/
theorem splitList_append_cons {p : Char → Bool} {d : Char} (hd : p d = true)
    (cs rest : List Char) :
    splitList p (cs ++ d :: rest) = splitList p cs ++ splitList p rest := by
  induction cs with
  | nil =>
    show splitList p (d :: rest) = [] :: splitList p rest
    rw [splitList, if_pos hd]
  | cons c cs ih =>
    rw [List.cons_append, splitList, splitList, ih]
    split
    · rfl
    · cases hpieces : splitList p cs with
      | nil => exact absurd hpieces (splitList_ne_nil cs)
      | cons piece more => rfl

theorem lines_append_feed (s t : String) : lines (s ++ "\n" ++ t) = lines s ++ lines t := by
  have hfeed : (s ++ "\n" ++ t).toList = s.toList ++ '\n' :: t.toList := by
    rw [String.toList_append, String.toList_append, List.append_assoc]
    rfl
  rw [lines, hfeed, splitList_append_cons (decide_eq_true rfl), List.map_append]
  rfl

theorem lines_of_oneLine {s : String} (h : OneLine s) : lines s = [s] := by
  have hpiece : ∀ c ∈ s.toList, decide (c = '\n') = false := by
    intro c hc
    exact decide_eq_false fun heq => h (heq ▸ hc)
  rw [lines, splitList_piece hpiece, List.map_singleton, String.ofList_toList]

theorem length_lines_pos (s : String) : 0 < (lines s).length := by
  rw [lines, List.length_map]
  exact List.length_pos_iff.2 (splitList_ne_nil _)

/-- A text that comes apart into one line has no line feed. -/
theorem oneLine_of_length_lines {s : String} (h : (lines s).length = 1) : OneLine s := by
  rw [lines, List.length_map, List.length_eq_one_iff] at h
  obtain ⟨piece, hpieces⟩ := h
  have hjoined := intercalate_splitList '\n' s.toList
  rw [hpieces, List.intercalate_singleton] at hjoined
  intro hfeed
  rw [← hjoined] at hfeed
  have hmem : piece ∈ splitList (· = '\n') s.toList := by
    rw [hpieces]
    exact List.mem_cons_self
  exact of_decide_eq_false (not_mem_splitList hmem '\n' hfeed) rfl

/-! ## Lines put together -/

/-- The text of lines that are ended by line feeds. -/
def joined (ls : List String) : String := String.join (ls.map (· ++ "\n"))

theorem lines_joined (ls : List String) : lines (joined ls) = ls.flatMap lines ++ [""] := by
  induction ls with
  | nil => rfl
  | cons l rest ih =>
    have hsplit : joined (l :: rest) = l ++ "\n" ++ joined rest := by
      apply String.toList_inj.1
      simp [joined, String.toList_join]
    rw [hsplit, lines_append_feed, ih, List.flatMap_cons, List.append_assoc]

/-- Lines without line feeds come apart as they were put together. -/
theorem lines_joined_of_oneLine {ls : List String} (h : ∀ l ∈ ls, OneLine l) :
    lines (joined ls) = ls ++ [""] := by
  have hlines : ls.flatMap lines = ls := by
    rw [List.flatMap_congr fun l hl => lines_of_oneLine (h l hl)]
    exact List.flatMap_singleton' ls
  rw [lines_joined, hlines]

theorem length_le_flatMap_lines (ls : List String) : ls.length ≤ (ls.flatMap lines).length := by
  induction ls with
  | nil => exact Nat.le_refl 0
  | cons l rest ih =>
    have hpos := length_lines_pos l
    rw [List.flatMap_cons, List.length_append, List.length_cons]
    omega

/-- A text comes apart into no more lines than it was put together from exactly if none of them
has a line feed. -/
theorem length_lines_joined_le_iff {ls : List String} :
    (lines (joined ls)).length ≤ ls.length + 1 ↔ ∀ l ∈ ls, OneLine l := by
  rw [lines_joined, List.length_append, List.length_singleton]
  constructor
  · intro hle
    induction ls with
    | nil =>
      intro l hl
      cases hl
    | cons l rest ih =>
      have hpos := length_lines_pos l
      have hrest := length_le_flatMap_lines rest
      rw [List.flatMap_cons, List.length_append, List.length_cons] at hle
      have hone : OneLine l := oneLine_of_length_lines (by omega)
      exact List.forall_mem_cons.2 ⟨hone, ih (by omega)⟩
  · intro h
    have hlines := lines_joined_of_oneLine h
    rw [lines_joined] at hlines
    rw [List.append_cancel_right hlines]

end ImageImports.Text

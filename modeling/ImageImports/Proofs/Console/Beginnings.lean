import ImageImports.Console.Screen
import ImageImports.Proofs.Success

/-!
# How lines begin

A line can be told by its first character when the layout keeps it in front: a character that
takes one cell by itself is not cut, is not left behind for the line before, and does not make
way for a blank.  Text that begins with such a character is laid out in lines of which the first
one begins with it, however narrow the screen is.  The lines of a table begin with its frame, and
the rule above a section begins with a stroke or a blank.

## Main results

* `flow_begins` — the first line of a text begins as the text does.
* `Table.lines_begin` — every line of a table without a title begins with its frame.
-/

namespace ImageImports.Console

/-! ## Cells -/

/-- A character that takes one cell, whatever stands behind it. -/
structure Solid (c : Char) : Prop where
  cells : Unicode.cellCount c = 1
  narrow : Unicode.widensAsPicture c = false
  alone : c ≠ joiner ∧ c ≠ pictureSelector

instance (c : Char) : Decidable (Solid c) :=
  decidable_of_iff (Unicode.cellCount c = 1 ∧ Unicode.widensAsPicture c = false
    ∧ c ≠ joiner ∧ c ≠ pictureSelector)
    ⟨fun h => ⟨h.1, h.2.1, h.2.2⟩, fun h => ⟨h.cells, h.narrow, h.alone⟩⟩

/-- A cluster whose base is not widened keeps its cells, whatever it takes along. -/
theorem Cluster.after_begins (last : Cluster) (base : Option Char)
    (h : base.any Unicode.widensAsPicture = false) (cs : List Char) :
    ∃ more rest, after last base cs = ⟨last.chars ++ more, last.cells⟩ :: rest := by
  have hextend {last : Cluster} {taken : List Char} {ks : List Cluster}
      (ih : ∃ more rest,
        ks = ⟨(last.extend taken).chars ++ more, (last.extend taken).cells⟩ :: rest) :
      ∃ more rest, ks = ⟨last.chars ++ more, last.cells⟩ :: rest := by
    obtain ⟨more, rest, heq⟩ := ih
    exact ⟨taken ++ more, rest, by rw [heq, extend, List.append_assoc]⟩
  fun_induction after last base cs with
  | case1 last base => exact ⟨[], [], by rw [List.append_nil]⟩
  | case2 last base => exact ⟨[joiner], [], rfl⟩
  | case3 last base next rest ih => exact hextend (ih h)
  | case4 last rest b hwide hjoiner ih =>
    rw [Option.any_some, hwide] at h
    cases h
  | case5 last rest b hnarrow hjoiner ih => exact hextend (ih h)
  | case6 last rest hjoiner ih => exact hextend (ih h)
  | case7 last base d rest hjoiner hselector hcells ih => exact hextend (ih h)
  | case8 last base d rest hjoiner hselector hcells ih =>
    exact ⟨[], _, by rw [List.append_nil]⟩

variable {c : Char} {n : Nat}

theorem Solid.clusters (h : Solid c) (cs : List Char) :
    ∃ more rest, clusters (c :: cs) = ⟨c :: more, 1⟩ :: rest := by
  have hcells : ¬ (c = joiner ∨ c = pictureSelector ∨ Unicode.cellCount c = 0) := by
    rw [h.cells]
    simp [h.alone]
  rw [Console.clusters, if_neg hcells, h.cells]
  exact Cluster.after_begins ⟨[c], 1⟩ (some c) h.narrow cs

/-- Fitting a text to a screen keeps its first character. -/
theorem Solid.fit (h : Solid c) (hn : 0 < n) (cs : List Char) :
    ∃ more, fit n (c :: cs) = c :: more := by
  rw [Console.fit]
  split
  · exact ⟨_, rfl⟩
  · obtain ⟨more, rest, heq⟩ := h.clusters cs
    obtain ⟨room, rfl⟩ := Nat.exists_eq_succ_of_ne_zero (Nat.ne_of_gt hn)
    rw [heq, takeCells, if_pos (Nat.le_add_left 1 room)]
    exact ⟨_, rfl⟩

/-- So does cutting it. -/
theorem Solid.crop (h : Solid c) (hn : 0 < n) (cs : List Char) :
    ∃ more, crop n (c :: cs) = c :: more := by
  rw [Console.crop]
  split
  · exact ⟨cs, rfl⟩
  · exact h.fit hn cs

/-- A piece that takes cells is not left empty. -/
theorem chopClusters_begins (n : Nat) (piece : List Char) {used : Nat} (hused : used ≠ 0)
    (ks : List Cluster) :
    ∃ more pieces, chopClusters n piece used ks = (piece ++ more) :: pieces := by
  induction ks generalizing piece used with
  | nil =>
    rw [chopClusters, if_neg hused]
    exact ⟨[], [], by rw [List.append_nil]⟩
  | cons k rest ih =>
    rw [chopClusters]
    split
    · have hmore : used + k.cells ≠ 0 := by omega
      obtain ⟨more, pieces, heq⟩ := ih (piece ++ k.chars) hmore
      exact ⟨k.chars ++ more, pieces, by rw [heq, List.append_assoc]⟩
    · exact ⟨[], _, by rw [List.append_nil]⟩

theorem Solid.chop (h : Solid c) (hn : 0 < n) (cs : List Char) :
    ∃ more pieces, chop n (c :: cs) = (c :: more) :: pieces := by
  obtain ⟨more, rest, heq⟩ := h.clusters cs
  have hfits : 0 + 1 ≤ n := by omega
  rw [Console.chop, heq, chopClusters, if_pos hfits]
  obtain ⟨others, pieces, hpieces⟩ :=
    chopClusters_begins n ([] ++ c :: more) (Nat.succ_ne_zero 0) rest
  exact ⟨more ++ others, pieces, hpieces⟩

/-! ## Words -/

namespace Filling

/-- The first of the lines begins with that character. -/
def Begins (c : Char) (f : Filling) : Prop := ∃ line rest, f.lines = (c :: line) :: rest

theorem lines_eq (f : Filling) : f.lines = f.done.reverse ++ [f.line] := by
  rw [lines, List.reverse_cons]

theorem Begins.breakLine {f : Filling} (h : f.Begins c) : f.breakLine.Begins c := by
  obtain ⟨line, rest, heq⟩ := h
  rw [Filling.breakLine]
  split
  · exact ⟨line, rest, heq⟩
  · refine ⟨line, rest ++ [[]], ?_⟩
    have hlines : (⟨f.line :: f.done, [], 0⟩ : Filling).lines = f.lines ++ [[]] := by
      rw [lines, lines, List.reverse_cons]
    rw [hlines, heq, List.cons_append]

theorem Begins.put {f : Filling} (h : f.Begins c) (cs : List Char) (cells : Nat) :
    (f.put cs cells).Begins c := by
  obtain ⟨line, rest, heq⟩ := h
  rw [lines_eq] at heq
  have hlines : (f.put cs cells).lines = f.done.reverse ++ [f.line ++ cs] :=
    lines_eq (f.put cs cells)
  cases hdone : f.done.reverse with
  | nil =>
    rw [hdone, List.nil_append, List.cons.injEq] at heq
    rw [Begins, hlines, hdone, List.nil_append, heq.1]
    exact ⟨line ++ cs, [], rfl⟩
  | cons first others =>
    rw [hdone, List.cons_append, List.cons.injEq] at heq
    rw [Begins, hlines, hdone, heq.1]
    exact ⟨line, _, rfl⟩

/-- Pieces on lines of their own leave the first line what it is. -/
theorem Begins.putAll {f : Filling} (h : f.Begins c) (pieces : List (List Char)) :
    (pieces.foldl (fun f piece => f.breakLine.put piece (width piece)) f).Begins c := by
  induction pieces generalizing f with
  | nil => exact h
  | cons piece rest ih => exact ih (h.breakLine.put piece (width piece))

/-- Nothing that is laid out behind it goes in front of the first line. -/
theorem Begins.addWord {f : Filling} (h : f.Begins c) (n : Nat) (overflow : Overflow)
    (word : List Char) : (f.addWord n overflow word).Begins c := by
  rw [Filling.addWord]
  split
  · exact h.put word _
  · split
    · exact h.putAll _
    · exact h.breakLine.put word _

/-- The first word begins the first line, and where it is folded its first piece does. -/
theorem begins_addWord (h : Solid c) (hn : 0 < n) (overflow : Overflow) (word : List Char) :
    (({} : Filling).addWord n overflow (c :: word)).Begins c := by
  rw [Filling.addWord]
  split
  · exact ⟨word, [], rfl⟩
  · split
    · obtain ⟨more, pieces, heq⟩ := h.chop hn word
      have hfirst : ((({} : Filling).breakLine).put (c :: more) (width (c :: more))).Begins c :=
        ⟨more, [], rfl⟩
      rw [heq, List.foldl_cons]
      exact hfirst.putAll pieces
    · exact ⟨word, [], rfl⟩

end Filling

/-- The first word of a text begins as the text does, unless that is a blank. -/
theorem words_begins (hblank : isBlank c = false) (cs : List Char) :
    ∃ word more, words (c :: cs) = (c :: word) :: more := by
  have hnot : ¬ isBlank c = true := by
    rw [hblank]
    decide
  have hwords : ∃ word more, wordsOf (c :: cs) = (c :: word) :: more := by
    rw [wordsOf]
    split
    · exact ⟨[], [], rfl⟩
    · rw [hblank, Bool.false_and, if_neg (by decide)]
      exact ⟨_, _, rfl⟩
  obtain ⟨word, more, heq⟩ := hwords
  rw [words, List.dropWhile_cons_of_neg hnot, List.takeWhile_cons_of_neg hnot, heq]
  exact ⟨word, more, rfl⟩

/-! ## Lines of a text -/

theorem broken_begins (h : Solid c) (hblank : isBlank c = false) (hn : 0 < n)
    (overflow : Overflow) (cs : List Char) :
    ∃ line rest, broken n overflow (c :: cs) = (c :: line) :: rest := by
  have hall (ws : List (List Char)) (f : Filling) (hf : f.Begins c) :
      (ws.foldl (Filling.addWord n overflow) f).Begins c := by
    induction ws generalizing f with
    | nil => exact hf
    | cons word rest ih => exact ih _ (hf.addWord n overflow word)
  obtain ⟨word, more, heq⟩ := words_begins hblank cs
  rw [broken, heq]
  exact hall more _ (Filling.begins_addWord h hn overflow word)

theorem splitList_begins {p : Char → Bool} (h : p c = false) (cs : List Char) :
    ∃ piece more, Text.splitList p (c :: cs) = (c :: piece) :: more := by
  rw [Text.splitList, h, if_neg (by decide)]
  split
  · exact ⟨_, _, rfl⟩
  · exact ⟨[], [], rfl⟩

/-- What parts words is a blank, so it is no other character. -/
theorem decide_eq_of_isBlank {blank : Char} (h : isBlank blank = true)
    (hc : isBlank c = false) : decide (c = blank) = false := by
  refine decide_eq_false ?_
  rintro rfl
  rw [h] at hc
  cases hc

theorem untabbed_begins (hblank : isBlank c = false) (cs : List Char) :
    ∃ line, untabbed (c :: cs) = c :: line := by
  have htab : isBlank '\t' = true := rfl
  obtain ⟨part, more, heq⟩ :=
    splitList_begins (p := (· = '\t')) (decide_eq_of_isBlank htab hblank) cs
  rw [untabbed, heq]
  cases more with
  | nil => exact ⟨part, rfl⟩
  | cons next rest => exact ⟨_, rfl⟩

/-- Only blanks behind the width are dropped. -/
theorem dropOverhang_begins (hn : 0 < n) (cs : List Char) :
    ∃ line, dropOverhang n (c :: cs) = c :: line := by
  have hkept (blanks : Nat) :
      ∃ m, (c :: cs).length - min blanks ((c :: cs).length - n) = m + 1 := by
    refine Nat.exists_eq_succ_of_ne_zero ?_
    rw [List.length_cons]
    omega
  rw [dropOverhang]
  obtain ⟨m, hm⟩ := hkept ((c :: cs).length - (dropTrailing (c :: cs)).length)
  rw [hm, List.take_succ_cons]
  exact ⟨_, rfl⟩

/-- The first line of a text begins as the text does. -/
theorem flow_begins (h : Solid c) (hblank : isBlank c = false) (hn : 0 < n) (cs : List Char) :
    ∃ line rest, flow n .loose .fold (c :: cs) = (c :: line) :: rest := by
  have hfeed : isBlank '\n' = true := rfl
  obtain ⟨piece, more, hpieces⟩ :=
    splitList_begins (p := (· = '\n')) (decide_eq_of_isBlank hfeed hblank) cs
  obtain ⟨whole, huntabbed⟩ := untabbed_begins hblank piece
  obtain ⟨line, rest, hbroken⟩ := broken_begins h hblank hn .fold whole
  obtain ⟨kept, hkept⟩ := dropOverhang_begins (c := c) hn line
  obtain ⟨shown, hshown⟩ := h.crop hn kept
  rw [flow, hpieces, List.flatMap_cons, huntabbed, hbroken, List.map_cons, hkept, aligned, cut,
    hshown, List.cons_append]
  exact ⟨_, _, rfl⟩

/-! ## Lines on the screen -/

/-- A line begins with that character. -/
def BeginsWith (c : Char) (line : String) : Prop := line.toList.head? = some c

/-- A line keeps its beginning on the screen. -/
theorem Solid.beginsWith_onScreen (h : Solid c) (hn : 0 < n) (cs : List Char)
    (rest : List (List Char)) :
    ∃ line lines, onScreen n ((c :: cs) :: rest) = line :: lines ∧ BeginsWith c line := by
  obtain ⟨more, heq⟩ := h.crop hn cs
  refine ⟨String.ofList (Console.crop n (c :: cs)), onScreen n rest, rfl, ?_⟩
  rw [BeginsWith, heq, String.toList_ofList]
  rfl

/-- Lines that begin with other characters do not begin with this one. -/
theorem not_beginsWith_onScreen (hn : 0 < n) {lines : List (List Char)}
    (h : ∀ line ∈ lines, ∃ d more, line = d :: more ∧ Solid d ∧ d ≠ c) :
    ∀ line ∈ onScreen n lines, ¬ BeginsWith c line := by
  intro line hline hbegins
  obtain ⟨cs, hcs, rfl⟩ := List.mem_map.1 hline
  obtain ⟨d, more, rfl, hd, hne⟩ := h cs hcs
  obtain ⟨kept, heq⟩ := hd.crop hn more
  rw [BeginsWith, heq, String.toList_ofList] at hbegins
  exact hne (Option.some.inj hbegins)

/-! ## Rules -/

theorem solid_stroke : Solid '─' := by decide +kernel

theorem solid_blank : Solid ' ' := by decide

theorem stroke_begins (hn : 0 < n) : ∃ more, stroke n = '─' :: more := by
  obtain ⟨m, rfl⟩ := Nat.exists_eq_succ_of_ne_zero (Nat.ne_of_gt hn)
  exact ⟨_, List.replicate_succ⟩

/-- A rule begins with a stroke, or with the blank before a title that leaves no room for one. -/
theorem titledRule_begins (hn : 0 < n) (title : List Char) :
    ∃ d more, titledRule n title = d :: more ∧ (d = '─' ∨ d = ' ') := by
  have hfit (left : Nat) (behind : List Char) :
      ∃ d more, fit n (stroke left ++ ' ' :: behind) = d :: more ∧ (d = '─' ∨ d = ' ') := by
    cases left with
    | zero =>
      obtain ⟨more, heq⟩ := solid_blank.fit hn behind
      exact ⟨' ', more, heq, .inr rfl⟩
    | succ left =>
      obtain ⟨strokes, hstrokes⟩ := stroke_begins (Nat.succ_pos left)
      obtain ⟨more, heq⟩ := solid_stroke.fit hn (strokes ++ ' ' :: behind)
      rw [hstrokes]
      exact ⟨'─', more, heq, .inl rfl⟩
  rw [titledRule]
  split
  · obtain ⟨more, heq⟩ := stroke_begins hn
    exact ⟨'─', more, heq, .inl rfl⟩
  · simp only [List.append_assoc, List.cons_append]
    exact hfit _ _

/-! ## Tables -/

namespace Table

/-- What the lines of a table begin with. -/
def frameStarts : List Char := ['┏', '┃', '┡', '│', '├', '└']

theorem solid_of_mem_frameStarts {d : Char} (h : d ∈ frameStarts) : Solid d := by
  -- By way of `all`, so that the members are tried and not every character.
  have hall : frameStarts.all (fun d => decide (Solid d)) = true := by decide +kernel
  exact of_decide_eq_true (List.all_eq_true.1 hall d h)

/-- A line of a table. -/
def Begun (line : List Char) : Prop := ∃ d more, line = d :: more ∧ d ∈ frameStarts

theorem begun_joined {left : Char} (h : left ∈ frameStarts) (divider right : Char)
    (pieces : List (List Char)) : Begun (joined left divider right pieces) :=
  ⟨left, _, rfl, h⟩

theorem rowLines_begin {inHead : Bool} {bar : Char} (hbar : bar ∈ frameStarts)
    {widths : List Nat} {aligns : List Alignment} {cells : List String}
    {lines : List (List Char)} (h : rowLines inHead bar widths aligns cells = .ok lines) :
    ∀ line ∈ lines, Begun line := by
  rw [rowLines] at h
  obtain ⟨shapes, -, h⟩ := bind_eq_ok_iff.1 h
  cases h
  intro line hline
  obtain ⟨i, -, rfl⟩ := List.mem_map.1 hline
  exact begun_joined hbar bar bar _

theorem mem_parted {ruled : Bool} {rule line : List Char} {rows : List (List (List Char))}
    (h : line ∈ parted ruled rule rows) : line = rule ∨ ∃ row ∈ rows, line ∈ row := by
  induction rows with
  | nil => cases h
  | cons row rest ih =>
    cases rest with
    | nil => exact .inr ⟨row, List.mem_cons_self, h⟩
    | cons next more =>
      change line ∈ row ++ (if ruled then [rule] else []) ++ parted ruled rule (next :: more) at h
      rcases List.mem_append.1 h with h | h
      · rcases List.mem_append.1 h with h | h
        · exact .inr ⟨row, List.mem_cons_self, h⟩
        · split at h
          · exact .inl (List.mem_singleton.1 h)
          · cases h
      · rcases ih h with h | ⟨other, hother, h⟩
        · exact .inl h
        · exact .inr ⟨other, List.mem_cons_of_mem row hother, h⟩

theorem framed_begins {t : Table} {strips : List Strip} {widths : List Nat}
    {lines : List (List Char)} (h : t.framed strips widths = .ok lines) :
    ∀ line ∈ lines, Begun line := by
  rw [framed] at h
  obtain ⟨_, -, h⟩ := bind_eq_ok_iff.1 h
  obtain ⟨head, hhead, h⟩ := bind_eq_ok_iff.1 h
  obtain ⟨rows, hrows, h⟩ := bind_eq_ok_iff.1 h
  cases h
  have hedge {left : Char} (hleft : left ∈ frameStarts) (fill divider right : Char) :
      Begun (edge left fill divider right widths) := begun_joined hleft divider right _
  have hrow : ∀ row ∈ rows, ∀ line ∈ row, Begun line := by
    intro row hrow
    obtain ⟨cells, -, hcells⟩ := exists_mem_of_forall₂ (forall₂_of_mapM_eq_ok hrows) row hrow
    exact rowLines_begin (by decide) hcells
  simp only [List.forall_mem_append, List.forall_mem_singleton]
  refine ⟨⟨⟨⟨hedge (by decide) _ _ _, rowLines_begin (by decide) hhead⟩,
    hedge (by decide) _ _ _⟩, fun line hline => ?_⟩, hedge (by decide) _ _ _⟩
  rcases mem_parted hline with rfl | ⟨row, hmem, hline⟩
  · exact hedge (by decide) _ _ _
  · exact hrow row hmem line hline

/-- Every line of a table begins with its frame, where nothing stands above or below it. -/
theorem lines_begin {t : Table} (htitle : t.title = "") (hcaption : t.caption = "")
    (hcolumns : t.columns ≠ []) {lines : List (List Char)} (h : t.lines n = .ok lines) :
    ∀ line ∈ lines, Begun line := by
  have hnone (m : Nat) : annotation m "" = .ok [] := rfl
  have hstrips : ¬ t.strips.isEmpty = true := by
    intro hempty
    have hlength := congrArg List.length (List.isEmpty_iff.1 hempty)
    rw [strips, List.length_map, List.length_zipIdx, List.length_append] at hlength
    exact hcolumns (List.length_eq_zero_iff.1 (Nat.eq_zero_of_add_eq_zero_right hlength))
  rw [Table.lines, htitle, hcaption] at h
  simp only [if_neg hstrips, hnone] at h
  obtain ⟨widths, -, h⟩ := bind_eq_ok_iff.1 h
  obtain ⟨title, htitle, h⟩ := bind_eq_ok_iff.1 h
  obtain ⟨body, hbody, h⟩ := bind_eq_ok_iff.1 h
  obtain ⟨caption, hcaption, h⟩ := bind_eq_ok_iff.1 h
  cases htitle
  cases hcaption
  cases h
  rw [List.nil_append, List.append_nil]
  exact framed_begins hbody

end Table

/-! ## Prints -/

/-- Where the lines of a table on the screen begin with its frame, they begin with nothing else. -/
theorem not_beginsWith_tablePrint {t : Table} (htitle : t.title = "") (hcaption : t.caption = "")
    (hcolumns : t.columns ≠ []) (hn : 0 < n) (hc : c ∉ Table.frameStarts) {lines : List String}
    (h : tablePrint n t = .ok lines) : ∀ line ∈ lines, ¬ BeginsWith c line := by
  rw [tablePrint] at h
  cases hlines : t.lines n with
  | error fault =>
    rw [hlines] at h
    cases h
  | ok laid =>
    rw [hlines] at h
    cases h
    refine not_beginsWith_onScreen hn fun line hline => ?_
    obtain ⟨d, more, rfl, hd⟩ := Table.lines_begin htitle hcaption hcolumns hlines line hline
    exact ⟨d, more, rfl, Table.solid_of_mem_frameStarts hd, fun heq => hc (heq ▸ hd)⟩

theorem not_beginsWith_blank {lines : List String} (h : blank = .ok lines) :
    ∀ line ∈ lines, ¬ BeginsWith c line := by
  cases h
  intro line hline hbegins
  rw [List.mem_singleton.1 hline] at hbegins
  cases hbegins

/-- The head of a section begins with the stroke of its rule, or with a blank. -/
theorem not_beginsWith_sectionHead (hn : 0 < n) (hstroke : c ≠ '─') (hblank : c ≠ ' ')
    {title : String} {lines : List String} (h : .ok lines ∈ sectionHead n title) :
    ∀ line ∈ lines, ¬ BeginsWith c line := by
  rcases List.mem_cons.1 h with h | h
  · cases htitle : Markup.plain ("  " ++ Markup.escape title ++ "  ") with
    | error fault =>
      rw [htitle] at h
      cases h
    | ok text =>
      rw [htitle] at h
      cases h
      refine not_beginsWith_onScreen hn fun line hline => ?_
      obtain ⟨d, more, heq, hd⟩ := titledRule_begins hn text
      rw [List.mem_singleton.1 hline]
      rcases hd with rfl | rfl
      · exact ⟨_, more, heq, solid_stroke, hstroke.symm⟩
      · exact ⟨_, more, heq, solid_blank, hblank.symm⟩
  · exact not_beginsWith_blank (List.mem_singleton.1 h).symm

end ImageImports.Console

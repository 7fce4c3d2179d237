import ImageImports.Console.Cells

/-!
# Flowing text into lines

A text is laid out in lines of a given width.  Line feeds end lines, tabs go to the next multiple of
eight cells, and a word that does not fit behind the words before it begins a new line.  What becomes
of a word that fits on no line depends on the overflow: it is folded over several lines, or its line
is cut with an ellipsis.
-/

namespace ImageImports.Console

/-- Where the text stands in its lines. -/
inductive Alignment where
  /-- At the left end, without blanks behind it. -/
  | loose
  /-- At the left end, with blanks up to the right end. -/
  | left
  | centre
  /-- At the right end. -/
  | right
  deriving DecidableEq

/-- What becomes of a word that is wider than a line. -/
inductive Overflow where
  | fold
  | ellipsis
  deriving DecidableEq

/-- Whether words are parted by a character. -/
def isBlank (c : Char) : Bool := Unicode.isBlank c.toNat

/-- The text without blanks at its end. -/
def dropTrailing (cs : List Char) : List Char := (cs.reverse.dropWhile isBlank).reverse

/-- How many cells a tab stop is wide. -/
def tabWidth : Nat := 8

/-- The line with blanks for its tabs, `column` cells behind its start: a tab is at least one
blank. -/
def expandTabs (column : Nat) : List (List Char) → List Char
  | [] => []
  | [last] => last
  | part :: rest =>
    let reached := column + width (part ++ [' '])
    let missing := (tabWidth - reached % tabWidth) % tabWidth
    part ++ List.replicate (1 + missing) ' ' ++ expandTabs (reached + missing) rest

/-- The line with blanks for its tabs. -/
def untabbed (line : List Char) : List Char := expandTabs 0 (Text.splitList (· = '\t') line)

/-- The words of a text; blanks stay with the word before them, those at its start by themselves. -/
def wordsOf : List Char → List (List Char)
  | [] => []
  | c :: rest =>
    match wordsOf rest with
    | [] => [[c]]
    | word :: more =>
      if isBlank c && !rest.head?.any isBlank then [c] :: word :: more else (c :: word) :: more

/-- The words of a line; blanks at its start belong to the first word. -/
def words (line : List Char) : List (List Char) :=
  match wordsOf (line.dropWhile isBlank) with
  | [] => []
  | word :: more => (line.takeWhile isBlank ++ word) :: more

/-- Lines that are being filled. -/
structure Filling where
  /-- The lines that are complete, the last one first. -/
  done : List (List Char) := []
  line : List Char := []
  /-- The cells of the line that count against its width. -/
  cells : Nat := 0

namespace Filling

/-- Begins a new line, unless nothing has been laid out. -/
def breakLine (f : Filling) : Filling :=
  if f.done.isEmpty && f.line.isEmpty then f else ⟨f.line :: f.done, [], 0⟩

/-- Puts characters at the end of the line, which then counts `cells` cells. -/
def put (f : Filling) (cs : List Char) (cells : Nat) : Filling :=
  { f with line := f.line ++ cs, cells }

/-- Lays out one more word in lines of `n` cells. -/
def addWord (n : Nat) (overflow : Overflow) (f : Filling) (word : List Char) : Filling :=
  let size := width (dropTrailing word)
  if f.cells + size ≤ n then f.put word (f.cells + width word)
  else if n < size ∧ overflow = .fold then
    (chop n word).foldl (fun f piece => f.breakLine.put piece (width piece)) f
  else f.breakLine.put word (width word)

/-- All lines, the first one first. -/
def lines (f : Filling) : List (List Char) := (f.line :: f.done).reverse

end Filling

/-- A line without tabs broken into lines of `n` cells. -/
def broken (n : Nat) (overflow : Overflow) (line : List Char) : List (List Char) :=
  match words line with
  | [] => [line]
  | ws => (ws.foldl (Filling.addWord n overflow) {}).lines

/-- The line without those blanks at its end that stand behind its first `n` characters. -/
def dropOverhang (n : Nat) (line : List Char) : List Char :=
  let blanks := line.length - (dropTrailing line).length
  line.take (line.length - min blanks (line.length - n))

/-- A line cut to `n` cells. -/
def cut (n : Nat) : Overflow → List Char → List Char
  | .fold => crop n
  | .ellipsis => abridge n

/-- A line set in `n` cells. -/
def aligned (n : Nat) (overflow : Overflow) (line : List Char) : Alignment → List Char
  | .loose => cut n overflow line
  | .left =>
    let line := cut n overflow line
    line ++ List.replicate (n - width line) ' '
  | .centre =>
    let line := cut n overflow (dropTrailing line)
    let indented := List.replicate ((n - width line) / 2) ' ' ++ line
    indented ++ List.replicate (n - width indented) ' '
  | .right =>
    let line := cut n overflow (dropTrailing line)
    List.replicate (n - width line) ' ' ++ line

/-- A text laid out in lines of `n` cells. -/
def flow (n : Nat) (align : Alignment) (overflow : Overflow) (text : List Char) :
    List (List Char) :=
  (Text.splitList (· = '\n') text).flatMap fun line =>
    (broken n overflow (untabbed line)).map fun line =>
      aligned n overflow (dropOverhang n line) align

end ImageImports.Console

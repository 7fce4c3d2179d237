import ImageImports.Console.Flow
import ImageImports.Console.Markup
import ImageImports.Decimal.Binary

/-!
# Tables

A table has a frame, a heavier one around its head.  Each column is as wide as its widest cell asks,
and when the table is wider than the screen the widest columns give way first.  Text that does not
fit into its cell flows over several lines, and a word that fits on no line is cut with an ellipsis.
-/

namespace ImageImports.Console

/-- A column of a table. -/
structure Column where
  header : String
  align : Alignment := .left
  /-- The cells of its text, where they do not depend on the text. -/
  fixed? : Option Nat := none
  /-- The least number of cells of its text. -/
  least : Nat := 0
  /-- The style of its cells; empty for none. -/
  style : String := ""

/-- A table whose texts are markup. -/
structure Table where
  /-- What stands above it; empty for nothing. -/
  title : String := ""
  /-- What stands below it; empty for nothing. -/
  caption : String := ""
  columns : List Column
  rows : List (List String)
  /-- Whether lines part the rows. -/
  ruled : Bool := false

namespace Table

/-- A blank stands on both sides of a cell's text. -/
def padding : Nat := 2

/-- A column with the markup of its head and its cells. -/
structure Strip extends Column where
  cells : List String

namespace Strip

/-- The characters that end a line when a text is measured. -/
def endsLine (c : Char) : Bool :=
  [0x0A, 0x0B, 0x0C, 0x0D, 0x1C, 0x1D, 0x1E, 0x85, 0x2028, 0x2029].contains c.toNat

/-- The cells of the widest line of a text. -/
def textWidth (text : List Char) : Nat := ((Text.splitList endsLine text).map width).foldl max 0

/-- Refuses a column whose style is none. -/
def checkStyle (s : Strip) : Except Fault Unit :=
  (Style.check s.style).mapError fun fault => match fault.unreadable? with
    | some message => .noNumber message
    | none => .noStyle s.style fault

/-- The width that a column asks for where at most `room` cells are left.  Its cells are read only
where there is room for a text between their blanks. -/
def measure (s : Strip) (room : Nat) : Except Fault Nat :=
  if room = 0 then .ok 0
  else match s.fixed? with
    | some n => .ok (min (n + padding) room)
    | none => do
      s.checkStyle
      let wanted ← if room ≤ padding then pure room
        else do
          let texts ← s.cells.mapM Markup.plain
          pure ((texts.map fun text => textWidth text + padding).foldl max 0)
      return max (min wanted room) (if s.least = 0 then 0 else s.least + padding)

end Strip

/-- The sum of the widths. -/
def sum (widths : List Nat) : Nat := widths.foldr (· + ·) 0

/-- Shares `total` out over values in proportion to their shares and takes it away from them, from
each at most its limit.  A half goes to the even neighbour. -/
def shrink : (total shares : Nat) → List (Nat × Nat × Nat) → List Nat
  | _, _, [] => []
  | total, shares, (share, limit, value) :: rest =>
    if share = 0 ∨ shares = 0 then value :: shrink total shares rest
    else
      let taken := min limit (Decimal.roundDiv (share * total) shares)
      (value - taken) :: shrink (total - taken) (shares - share) rest

/-- Takes `total` away from the columns that have a share and a limit. -/
def reduced (total : Nat) (items : List (Nat × Nat × Nat)) : List Nat :=
  let items := items.map fun (share, limit, value) => (if limit = 0 then 0 else share, limit, value)
  shrink total (sum (items.map (·.1))) items

/-- Narrows the widest of the yielding columns to the width of the next widest, and so on, until all
columns fit into `room` cells or the yielding ones are equally wide. -/
def narrow (room : Nat) (yielding : List Bool) : Nat → List Nat → List Nat
  | 0, widths => widths
  | fuel + 1, widths =>
    let excess := sum widths - room
    if excess = 0 then widths
    else
      let soft := (widths.zip yielding).map fun (w, y) => if y then w else 0
      let widest := soft.foldl max 0
      let next := (soft.filter (· ≠ widest)).foldl max 0
      if widest = next ∨ widest = 0 then widths
      else
        let limit := min excess (widest - next)
        narrow room yielding fuel <| reduced excess <|
          (widths.zip yielding).map fun (w, y) => (if y && w = widest then 1 else 0, limit, w)

/-- The widths of the columns where the screen has `room` cells for them. -/
def columnWidths (strips : List Strip) (room : Nat) : Except Fault (List Nat) := do
  let widths := (← strips.mapM fun s => s.measure room).map (max 1)
  if sum widths ≤ room then return widths
  let widths := narrow room (strips.map (·.fixed?.isNone)) (sum widths) widths
  let widths := if sum widths ≤ room then widths
    else reduced (sum widths - room) (widths.map fun w => (1, w, w))
  (strips.zip widths).mapM fun (s, w) => s.measure w

/-- The lines of a cell of `n` cells; the markup is read only where there is room for its text. -/
def cellLines (n : Nat) (align : Alignment) (markup : String) : Except Fault (List (List Char)) :=
  let room := n - padding
  if room = 0 then .ok []
  else (Markup.plain markup).map fun text =>
    (flow room align .ellipsis text).map fun line => ' ' :: fit room line ++ [' ']

/-- The lines of a cell of `n` cells with blank lines up to `height`: above its text in the head,
below it elsewhere. -/
def shaped (n height : Nat) (inHead : Bool) (lines : List (List Char)) : List (List Char) :=
  let blanks := List.replicate (height - lines.length) (List.replicate n ' ')
  if inHead then blanks ++ lines else lines ++ blanks

/-- The pieces of a line between a left end, dividers and a right end. -/
def joined (left divider right : Char) (pieces : List (List Char)) : List Char :=
  left :: [divider].intercalate pieces ++ [right]

/-- A line of the frame. -/
def edge (left fill divider right : Char) (widths : List Nat) : List Char :=
  joined left divider right (widths.map fun w => List.replicate w fill)

/-- The lines of a row. -/
def rowLines (inHead : Bool) (bar : Char) (widths : List Nat) (aligns : List Alignment)
    (cells : List String) : Except Fault (List (List Char)) := do
  let cells ← (widths.zip (aligns.zip cells)).mapM fun (w, align, cell) =>
    (w, ·) <$> cellLines w align cell
  let height := (cells.map (·.2.length)).foldl max 1
  let columns := cells.map fun (w, lines) => shaped w height inHead lines
  return (List.range height).map fun i =>
    joined bar bar bar (columns.map fun lines => lines.getD i [])

/-- Rows with lines between them if the table is ruled. -/
def parted (ruled : Bool) (rule : List Char) : List (List (List Char)) → List (List Char)
  | [] => []
  | [row] => row
  | row :: rest => row ++ (if ruled then [rule] else []) ++ parted ruled rule rest

/-- The columns with what stands in them.  Rows with more cells than there are columns open columns
without a header, and missing cells are empty. -/
def strips (t : Table) : List Strip :=
  let count := (t.rows.map List.length).foldl max t.columns.length
  let columns := t.columns ++ List.replicate (count - t.columns.length) { header := "" }
  columns.zipIdx.map fun (column, i) =>
    { column with cells := column.header :: t.rows.map fun row => row.getD i "" }

/-- What stands above or below a table of `n` cells. -/
def annotation (n : Nat) (text : String) : Except Fault (List (List Char)) :=
  if text.isEmpty then .ok [] else (flow n .centre .fold ·) <$> Markup.plain text

/-- The lines of the frame and all that is in it. -/
def framed (t : Table) (strips : List Strip) (widths : List Nat) :
    Except Fault (List (List Char)) := do
  strips.forM Strip.checkStyle
  let aligns := strips.map (·.align)
  let head ← rowLines true '┃' widths aligns (strips.map (·.header))
  let rows ← t.rows.mapM fun row => rowLines false '│' widths aligns
    (row ++ List.replicate (strips.length - row.length) "")
  return [edge '┏' '━' '┳' '┓' widths] ++ head ++ [edge '┡' '━' '╇' '┩' widths]
    ++ parted t.ruled (edge '├' '─' '┼' '┤' widths) rows ++ [edge '└' '─' '┴' '┘' widths]

/-- The lines of a table on a screen of `n` cells; a table without columns is a blank line. -/
def lines (t : Table) (n : Nat) : Except Fault (List (List Char)) := do
  let strips := t.strips
  if strips.isEmpty then return [[]]
  let border := strips.length + 1
  let widths ← columnWidths strips (n - border)
  let whole := sum widths + border
  let title ← annotation whole t.title
  let body ← t.framed strips widths
  return title ++ body ++ (← annotation whole t.caption)

end Table

end ImageImports.Console

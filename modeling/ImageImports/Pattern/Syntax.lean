/-!
# Search patterns

A pattern is a tree of nodes.  A node is tried at a position and may be left in more than one way;
the order in which the ways are tried is part of its meaning, because an atomic node keeps only the
first.  Options such as the case of letters are resolved when the tree is built, so a node says by
itself what it matches.

Code points are numbers, since a pattern can name code points that are no characters.
-/

namespace ImageImports.Pattern

/-- How two characters are compared. -/
inductive Fold where
  /-- As they are. -/
  | exact
  /-- With the case of ASCII letters ignored. -/
  | ascii
  /-- With the case of all letters ignored. -/
  | unicode
  deriving DecidableEq, Inhabited

/-- A class of characters. -/
inductive Category where
  | digit
  | blank
  | word
  deriving DecidableEq, Inhabited

/-- One member of a set. -/
inductive SetItem where
  | literal (code : Nat)
  | range (first last : Nat)
  /-- A class, of ASCII alone when `ascii`, or everything outside it when `negated`. -/
  | category (c : Category) (negated ascii : Bool)
  deriving DecidableEq, Inhabited

/-- What a single character is held against. -/
inductive CharTest where
  | literal (code : Nat) (negated : Bool) (fold : Fold)
  /-- Any character, line feeds only when `all`. -/
  | any (all : Bool)
  | set (items : List SetItem) (negated : Bool) (fold : Fold)
  deriving DecidableEq, Inhabited

/-- A condition on a position. -/
inductive Anchor where
  | textStart
  | lineStart
  | textEnd
  /-- The end, or before a line feed at the end. -/
  | lastLineEnd
  | lineEnd
  | boundary (negated ascii : Bool)
  deriving DecidableEq, Inhabited

/-- In which order the counts of a repetition are tried. -/
inductive Greed where
  | greedy
  | lazy
  /-- As many as possible, and no other count. -/
  | possessive
  deriving DecidableEq, Inhabited

/-- A pattern. -/
inductive Node where
  | empty
  | char (test : CharTest)
  | anchor (a : Anchor)
  | cat (first second : Node)
  | alt (first second : Node)
  /-- A group, numbered when it captures. -/
  | group (number? : Option Nat) (body : Node)
  | rep (greed : Greed) (least : Nat) (most? : Option Nat) (body : Node)
  | atomic (body : Node)
  /-- A look ahead, or a look behind over the width of the body. -/
  | look (behind negated : Bool) (body : Node)
  | backref (number : Nat) (fold : Fold)
  /-- One of two bodies, by whether a group has captured. -/
  | conditional (number : Nat) (yes no : Node)
  deriving DecidableEq, Inhabited

namespace Node

/-- Nodes one after the other. -/
def ofList : List Node → Node
  | [] => empty
  | [node] => node
  | node :: rest => cat node (ofList rest)

/-- The nodes that stand one after the other in a node. -/
def items : Node → List Node
  | empty => []
  | cat first second => first :: second.items
  | node => [node]

/-- Alternatives in order. -/
def alternatives : List Node → Node
  | [] => empty
  | [node] => node
  | node :: rest => alt node (alternatives rest)

end Node

/-- The number of characters that a node can span: at least, and at most. -/
structure Span where
  least : Nat
  most : Nat
  deriving DecidableEq, Inhabited

namespace Span

/-- Where counting stops. -/
def ceiling : Nat := 0x10000000000000000

/-- The most repetitions that a count can ask for; no upper bound counts as this many. -/
def maxRepeat : Nat := 4294967295

/-- The span cut at the ceiling. -/
def cut (s : Span) : Span := ⟨min s.least ceiling, min s.most ceiling⟩

end Span

/-- The span of a node, given those of the groups. -/
def Node.span (groupSpan : Nat → Span) : Node → Span
  | .empty | .anchor _ | .look .. => ⟨0, 0⟩
  | .char _ => ⟨1, 1⟩
  | .cat a b =>
    let s := a.span groupSpan
    let t := b.span groupSpan
    Span.cut ⟨s.least + t.least, s.most + t.most⟩
  | .alt a b =>
    let s := a.span groupSpan
    let t := b.span groupSpan
    ⟨min s.least t.least, max s.most t.most⟩
  | .group _ body | .atomic body => body.span groupSpan
  | .rep _ least most? body =>
    let s := body.span groupSpan
    Span.cut ⟨s.least * least,
      match most? with
      | some most => s.most * most
      | none => if s.most = 0 then 0 else Span.ceiling⟩
  | .backref number _ => groupSpan number
  | .conditional _ yes no =>
    let s := yes.span groupSpan
    let t := no.span groupSpan
    ⟨min s.least t.least, max s.most t.most⟩

/-- Whether every look behind in a node spans a fixed number of characters. -/
def Node.looksFixed (groupSpan : Nat → Span) : Node → Bool
  | .look behind _ body =>
    let s := body.span groupSpan
    (!behind || (s.least = s.most && s.least ≤ Span.maxRepeat)) && body.looksFixed groupSpan
  | .cat a b | .alt a b | .conditional _ a b => a.looksFixed groupSpan && b.looksFixed groupSpan
  | .group _ body | .rep _ _ _ body | .atomic body => body.looksFixed groupSpan
  | .empty | .char _ | .anchor _ | .backref .. => true

end ImageImports.Pattern

import ImageImports.Pattern.Character

/-!
# Matching

`Node.run` tries a node at a position and hands every way of leaving it to a continuation until one
succeeds, which is backtracking.

A trail goes along with the search: the marks that groups have made, and where the search stood when
it last set out.  It is handed on from ways that fail to those tried next, because turning back
clears only part of it.  A node that offers several ways forgets the marks of groups that were first
passed on a failed way; the marks of groups that had been passed before are put back inside the
rounds of a repetition, and elsewhere stay as the failed way left them.  A possessive repetition ends
where the search last stood, and that may be on the way of the round that failed.

A look behind starts as many characters before the position as its body spans.
-/

namespace ImageImports.Pattern

/-! ## Trails -/

/-- What a search has noted on its way. -/
structure Trail where
  /-- Where groups began and ended: mark `2 n` is where group `n + 1` began, mark `2 n + 1` where it
  ended.  None stands for a group that was not passed before one of a higher number. -/
  marks : List (Option Nat) := []
  /-- Where the search stood when it last set out, or where a part that stands alone came to its
  end. -/
  stood : Nat := 0
  deriving DecidableEq, Inhabited

namespace Trail

/-- The trail of a search that sets out from a position. -/
def standing (t : Trail) (pos : Nat) : Trail := { t with stood := pos }

/-- The trail with a position as one of its marks; marks left out on the way to it are none. -/
def mark (t : Trail) (index pos : Nat) : Trail :=
  { t with
    marks := if index < t.marks.length then t.marks.set index (some pos)
      else t.marks ++ List.replicate (index - t.marks.length) none ++ [some pos] }

/-- What is left of a trail by turning back to an earlier one: its marks again if `whole`, and
otherwise only their number. -/
def back (t earlier : Trail) (whole : Bool) : Trail :=
  { t with marks := if whole then earlier.marks else t.marks.take earlier.marks.length }

/-- Where a group began and ended, when it did both. -/
def bounds? (t : Trail) (number : Nat) : Option (Nat × Nat) :=
  match t.marks[2 * (number - 1)]?, t.marks[2 * (number - 1) + 1]? with
  | some (some first), some (some last) => some (first, last)
  | _, _ => none

/-- What a group has captured: where it began and where it ended. -/
def captured? (t : Trail) (number : Nat) : Option (Nat × Nat) :=
  (t.bounds? number).filter fun (first, last) => first ≤ last

/-- Whether the marks have a group end before it began, which marks of different ways can do. -/
def isCrossed (t : Trail) : Bool :=
  (List.range (t.marks.length / 2)).any fun n =>
    (t.bounds? (n + 1)).any fun (first, last) => last < first

end Trail

/-- How a try comes out, and the trail it leaves either way. -/
structure Outcome where
  found : Bool
  trail : Trail
  deriving DecidableEq, Inhabited

namespace Outcome

/-- A success as it is, and after a failure what comes of the trail it left. -/
def orElse (o : Outcome) (next : Trail → Outcome) : Outcome := if o.found then o else next o.trail

/-- A success as it is, and a failure with a change to its trail. -/
def leaving (o : Outcome) (change : Trail → Trail) : Outcome :=
  o.orElse fun t => ⟨false, change t⟩

end Outcome

/-- What is done at each position that a node is left at. -/
abbrev Continuation := Nat → Trail → Outcome

/-- A way of trying a node. -/
abbrev Trial := Continuation → Continuation

/-- The end of a part that stands alone. -/
def finish : Continuation := fun pos t => ⟨true, t.standing pos⟩

/-! ## Positions -/

/-- Whether a character is part of a word. -/
def isWordAt (text : Array Nat) (ascii : Bool) (pos? : Option Nat) : Bool :=
  match pos?.bind (text[·]?) with
  | some c => Category.word.contains ascii c
  | none => false

/-- Whether a condition holds at a position. -/
def Anchor.holds (text : Array Nat) (pos : Nat) : Anchor → Bool
  | .textStart => pos = 0
  | .lineStart => pos = 0 || text[pos - 1]? = some 10
  | .textEnd => pos = text.size
  | .lastLineEnd => pos = text.size || (pos + 1 = text.size && text[pos]? = some 10)
  | .lineEnd => pos = text.size || text[pos]? = some 10
  | .boundary negated ascii =>
    -- An empty text has neither boundaries nor places that are none.
    text.size ≠ 0 &&
      (isWordAt text ascii (if pos = 0 then none else some (pos - 1))
        != isWordAt text ascii (some pos)) != negated

/-- Whether the text repeats a part of itself, and behind which position. -/
def repeats? (text : Array Nat) (fold : Fold) (first last pos : Nat) : Option Nat :=
  if pos + (last - first) ≤ text.size
      ∧ (List.range (last - first)).all fun i =>
          (text[first + i]?.map fold.lower) == (text[pos + i]?.map fold.lower) then
    some (pos + (last - first))
  else none

/-- Whether the character at a position is there and passes a test. -/
def CharTest.passesAt (text : Array Nat) (test : CharTest) (pos : Nat) : Bool :=
  text[pos]?.any test.passes

/-- How many of the next `n` characters pass a test without a break. -/
def CharTest.runLength (text : Array Nat) (test : CharTest) : Nat → Nat → Nat
  | 0, _ => 0
  | n + 1, pos => if test.passesAt text pos then test.runLength text n (pos + 1) + 1 else 0

/-! ## What a node begins with -/

/-- What a node begins with. -/
inductive Start where
  /-- It is empty, so that what follows it begins. -/
  | open
  | test (t : CharTest)
  | other

/-- What a node begins with when something follows it. -/
def Start.or : Start → Start → Start
  | .open, next => next
  | start, _ => start

/-- What a node begins with. -/
def Node.start : Node → Start
  | .empty => .open
  | .char t => .test t
  | .cat a b => a.start.or b.start
  | .group none body => body.start
  | _ => .other

/-- Whether the character at a position rules out what begins there; only a literal and, when `sets`,
a set are asked, and not about letter case. -/
def Start.rulesOut (text : Array Nat) (pos : Nat) (sets : Bool) : Start → Bool
  | .test t@(.literal _ false _) => !t.isCased && !t.passesAt text pos
  | .test t@(.set ..) => sets && !t.isCased && !t.passesAt text pos
  | _ => false

/-- The test of a node that is a single character. -/
def Node.unit? : Node → Option CharTest
  | .char t => some t
  | .group none body => body.unit?
  | _ => none

/-- Whether a node is an alternation, whose alternatives go on with those before it. -/
def Node.isAlternation : Node → Bool
  | .alt .. => true
  | _ => false

/-! ## Repetitions of a single character -/

/-- Sets out from `n` positions further on, then from one less, down to the position itself. -/
def tryDown (attempt : Continuation) : Nat → Continuation
  | 0, pos, t => attempt pos t
  | n + 1, pos, t => (attempt (pos + n + 1) t).orElse (tryDown attempt n pos)

/-- Sets out from the position, then from behind each next character that passes a test, `n` times at
most. -/
def tryUp (text : Array Nat) (test : CharTest) (attempt : Continuation) : Nat → Continuation
  | 0, _, t => ⟨false, t⟩
  | n + 1, pos, t =>
    (attempt pos t).orElse fun u =>
      if test.passesAt text pos then
        tryUp text test attempt n (pos + 1) (u.standing (if test.isFoldedSet then pos + 1 else pos))
      else ⟨false, u.standing pos⟩

/-- Repeats a single character.  `next` is what follows, which can rule positions out. -/
def runUnits (text : Array Nat) (test : CharTest) (greed : Greed) (least : Nat) (most? : Option Nat)
    (inRound : Bool) (next : Start) (done : Continuation) (pos : Nat) (t : Trail) : Outcome :=
  if text.size < pos + least then ⟨false, t⟩
  else
    let room := text.size - pos
    let asked := match greed with
      | .lazy => least
      | _ => min room (most?.getD room)
    let count := test.runLength text asked pos
    let t := t.standing (if test.isFoldedSet then pos + count else pos)
    let attempt : Continuation := fun p u =>
      (done p (u.standing p)).leaving (·.back t inRound)
    if count < least then ⟨false, t⟩
    else match greed with
      | .greedy =>
        let attempt : Continuation := fun p u =>
          if next.rulesOut text p false then ⟨false, u⟩ else attempt p u
        tryDown attempt (count - least) (pos + least) t
      | .lazy =>
        tryUp text test attempt (min room (most?.getD room) - least + 1) (pos + least) t
      | .possessive => done (pos + count) (t.standing (pos + count))

/-! ## Rounds -/

/-- Rounds of a repetition that takes as many as it can.  `last?` is where the round before began,
once there have been enough. -/
def runGreedy (body : Trial) (least : Nat) (most? : Option Nat) :
    Nat → Nat → Option Nat → Trial
  | 0, _, _, _, pos, t => ⟨false, t.standing pos⟩
  | fuel + 1, count, last?, done, pos, t =>
    let t := t.standing pos
    let round (last? : Option Nat) : Outcome :=
      body (runGreedy body least most? fuel (count + 1) last? done) pos t
    if count < least then (round last?).leaving (·.standing pos)
    else
      let onward (_ : Trail) : Outcome := (done pos t).leaving (·.standing pos)
      if most?.all (count < ·) ∧ last? ≠ some pos then (round (some pos)).orElse onward
      else onward t

/-- Rounds of a repetition that takes as few as it can.  `inRound` when it is itself part of a
round. -/
def runLazy (body : Trial) (least : Nat) (most? : Option Nat) (inRound : Bool) :
    Nat → Nat → Option Nat → Trial
  | 0, _, _, _, pos, t => ⟨false, t.standing pos⟩
  | fuel + 1, count, last?, done, pos, t =>
    let t := t.standing pos
    let round (last? : Option Nat) (u : Trail) : Outcome :=
      (body (runLazy body least most? inRound fuel (count + 1) last? done) pos u).leaving
        (·.standing pos)
    if count < least then round last? t
    else
      (done pos t).orElse fun u =>
        let u := (u.back t inRound).standing pos
        if most?.all (count < ·) ∧ last? ≠ some pos then round (some pos) u else ⟨false, u⟩

/-- Rounds of a repetition that never goes back into a round.  Each sets out from where the trail
says; so does what follows, also when it was a round that failed. -/
def runPossessive (body : Continuation) (least : Nat) (most? : Option Nat) :
    Nat → Nat → Option Nat → Trail → Outcome
  | 0, _, _, t => ⟨false, t⟩
  | fuel + 1, count, last?, t =>
    if count < least then
      let o := body t.stood t
      if o.found then runPossessive body least most? fuel (count + 1) last? o.trail else o
    else if most?.all (count < ·) ∧ last? ≠ some t.stood then
      let o := body t.stood t
      if o.found then runPossessive body least most? fuel (count + 1) (some t.stood) o.trail
      else ⟨true, o.trail.back t true⟩
    else ⟨true, t⟩

/-- A bound on the number of rounds: enough to satisfy the least count, and then a few for each
position, since a round that ends where it began is the last. -/
def roundLimit (text : Array Nat) (least : Nat) : Nat := least + 4 * (text.size + 3)

/-! ## Nodes -/

/-- Tries a node at a position.  `inRound` says that it is part of a round of a repetition, and
`next` with what the pattern goes on behind it. -/
def Node.run (text : Array Nat) (width : Node → Nat) : Node → Bool → Start → Trial
  | .empty, _, _, done, pos, t => done pos t
  | .char test, _, _, done, pos, t =>
    if test.passesAt text pos then done (pos + 1) t else ⟨false, t⟩
  | .anchor a, _, _, done, pos, t => if a.holds text pos then done pos t else ⟨false, t⟩
  | .cat a b, inRound, next, done, pos, t =>
    a.run text width inRound (b.start.or next) (b.run text width inRound next done) pos t
  | .alt a b, inRound, _, done, pos, t =>
    let first := if a.start.rulesOut text pos true then ⟨false, t⟩
      else (a.run text width inRound .other done pos (t.standing pos)).leaving (·.back t inRound)
    first.orElse fun u =>
      if b.isAlternation then b.run text width inRound .other done pos u
      else if b.start.rulesOut text pos true then ⟨false, u⟩
      else (b.run text width inRound .other done pos (u.standing pos)).leaving (·.back t inRound)
  | .group none body, inRound, next, done, pos, t => body.run text width inRound next done pos t
  | .group (some number) body, inRound, _, done, pos, t =>
    body.run text width inRound .other
      (fun p u => done p (u.mark (2 * (number - 1) + 1) p)) pos (t.mark (2 * (number - 1)) pos)
  | .rep greed least most? body, inRound, next, done, pos, t =>
    match body.unit? with
    | some test => runUnits text test greed least most? inRound next done pos t
    | none =>
      let limit := roundLimit text least
      match greed with
      | .greedy => runGreedy (body.run text width true .other) least most? limit 0 none done pos t
      | .lazy =>
        runLazy (body.run text width true .other) least most? inRound limit 0 none done pos t
      | .possessive =>
        let o := runPossessive (body.run text width inRound .other finish) least most? limit 0 none
          (t.standing pos)
        if o.found then done o.trail.stood o.trail else ⟨false, o.trail.standing pos⟩
  | .atomic body, inRound, _, done, pos, t =>
    let o := body.run text width inRound .other finish pos (t.standing pos)
    if o.found then done o.trail.stood o.trail else ⟨false, o.trail.standing pos⟩
  | .look behind negated body, inRound, _, done, pos, t =>
    let before := if behind then width body else 0
    if pos < before then if negated then done pos t else ⟨false, t⟩
    else
      let o := body.run text width inRound .other finish (pos - before) (t.standing (pos - before))
      match o.found, negated with
      | true, false => done pos o.trail
      | false, true => done pos (o.trail.back t inRound)
      | _, _ => ⟨false, o.trail⟩
  | .backref number fold, _, _, done, pos, t =>
    match t.captured? number with
    | some (first, last) =>
      match repeats? text fold first last pos with
      | some p => done p t
      | none => ⟨false, t⟩
    | none => ⟨false, t⟩
  | .conditional number yes no, inRound, next, done, pos, t =>
    if (t.captured? number).isSome then
      yes.run text width inRound (if no = .empty then next else .other) done pos t
    else no.run text width inRound next done pos t

end ImageImports.Pattern

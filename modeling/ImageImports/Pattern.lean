import ImageImports.Pattern.Matcher
import ImageImports.Pattern.Parser

/-!
# Whole-text search

A text is found when the pattern matches all of it, from the first character to the last.  There is
no answer when the groups that were captured on the way do not end where they ought to.
-/

namespace ImageImports.Pattern

/-- How a search of a whole text for a pattern comes out. -/
def Parsed.outcome (p : Parsed) (text : String) : Outcome :=
  let codes := (text.toList.map Char.toNat).toArray
  let done : Continuation := fun pos t => if pos = codes.size then finish pos t else ⟨false, t⟩
  p.node.run codes (fun body => (body.span p.groupSpan).least) false .other done 0 {}

/-- Whether a pattern matches the whole of a text. -/
def Parsed.matchesAll (p : Parsed) (text : String) : Read Bool :=
  let o := p.outcome text
  if o.found ∧ o.trail.isCrossed then .error .crossedGroup else .ok o.found

end ImageImports.Pattern

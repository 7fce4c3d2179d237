import ImageImports.Pattern.Syntax
import ImageImports.Unicode.Word
import ImageImports.Unicode.Case

/-!
# Characters against tests

What a class holds, when two characters are the same but for their case, and whether a character
passes the test of a pattern.  Sets whose case is ignored are held against the lower case of a
character; a set of which no member has another case is held against the character as it is.
-/

namespace ImageImports.Pattern

/-- Whether a code point is in a class. -/
def Category.contains (c : Category) (ascii : Bool) (code : Nat) : Bool :=
  match c with
  | .digit => if ascii then 48 ≤ code && code ≤ 57 else Unicode.isDigit code
  | .blank => if ascii then code = 32 || (9 ≤ code && code ≤ 13) else Unicode.isBlank code
  | .word =>
    code = 95 ||
      if ascii ∨ code < 128 then
        (48 ≤ code && code ≤ 57) || (65 ≤ code && code ≤ 90) || (97 ≤ code && code ≤ 122)
      else Unicode.isWord code

/-- The lower case of an ASCII letter. -/
def asciiLower (code : Nat) : Nat := if 65 ≤ code ∧ code ≤ 90 then code + 32 else code

/-- The code point that stands for all those compared as equal. -/
def Fold.lower : Fold → Nat → Nat
  | .exact, code => code
  | .ascii, code => asciiLower code
  | .unicode, code => Unicode.lower code

/-- Whether a code point is equal to others. -/
def Fold.isCased : Fold → Nat → Bool
  | .exact, _ => false
  | .ascii, code => asciiLower code ≠ code || (97 ≤ code && code ≤ 122)
  | .unicode, code => Unicode.isCased code

/-- The lower-case code points that a lower-case code point is equal to, itself among them. -/
def Fold.class : Fold → Nat → List Nat
  | .unicode, lowered => lowered :: Unicode.siblings lowered
  | _, lowered => [lowered]

/-- Whether a character is the one that a pattern names. -/
def literalMatches (fold : Fold) (code c : Nat) : Bool :=
  if fold.isCased code then (fold.class (fold.lower code)).contains (fold.lower c) else c = code

/-- The last code point of the first plane.  Members of a set beyond it are held against the folded
character as they stand, and against its upper case when they are ranges. -/
def firstPlaneEnd : Nat := 0xFFFF

/-- The code points that a lower-case code point stands for. -/
def Fold.preimages : Fold → Nat → List Nat
  | .exact, code => [code]
  | .ascii, code => if 97 ≤ code ∧ code ≤ 122 then [code, code - 32] else [code]
  | .unicode, code => Unicode.lowerPreimages code

/-- Whether a character belongs to a member of a set, as it is. -/
def SetItem.contains (c : Nat) : SetItem → Bool
  | .literal code => c = code
  | .range first last => first ≤ c && c ≤ last
  | .category cls negated ascii => cls.contains ascii c != negated

/-- Whether a lower-case character belongs to a member of a set whose case is ignored. -/
def SetItem.containsFolded (fold : Fold) (lowered : Nat) : SetItem → Bool
  | .literal code =>
    if firstPlaneEnd < code then lowered = code
    else (fold.class lowered).contains (fold.lower code)
  | .range first last =>
    ((fold.class lowered).flatMap fold.preimages).any
        (fun c => first ≤ c && c ≤ last && c ≤ firstPlaneEnd)
      || (firstPlaneEnd < last
        && [lowered, Unicode.upper lowered].any fun c => first ≤ c && c ≤ last)
  | .category cls negated ascii => cls.contains ascii lowered != negated

/-- Whether a member makes the case of a set matter. -/
def SetItem.isCased (fold : Fold) : SetItem → Bool
  | .literal code => firstPlaneEnd < code || fold.isCased code
  | .range first last =>
    firstPlaneEnd < last ||
      match fold with
      | .exact => false
      | .ascii => (65 ≤ last && first ≤ 90) || (97 ≤ last && first ≤ 122)
      | .unicode => Unicode.hasCased first last
  | .category .. => false

/-- Whether the case of letters makes a difference to a test. -/
def CharTest.isCased : CharTest → Bool
  | .literal code _ fold => fold.isCased code
  | .any _ => false
  | .set items _ fold => fold ≠ .exact && items.any (·.isCased fold)

/-- Whether a test asks for a member of a set in any letter case, as literals do where characters of
several lower cases are equal. -/
def CharTest.isFoldedSet : CharTest → Bool
  | .literal code _ fold => fold.isCased code && 1 < (fold.class (fold.lower code)).length
  | test@(.set ..) => test.isCased
  | .any _ => false

/-- Whether a character passes a test. -/
def CharTest.passes (c : Nat) : CharTest → Bool
  | .literal code negated fold => literalMatches fold code c != negated
  | .any all => all || c ≠ 10
  | test@(.set items negated fold) =>
    (if test.isCased then items.any (·.containsFolded fold (fold.lower c))
      else items.any (·.contains c)) != negated

end ImageImports.Pattern

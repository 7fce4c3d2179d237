import ImageImports.Unicode.Word

/-!
# Text

Cutting and trimming of texts, in characters.

## Main results

* `length_trim_le` — trimming never lengthens a text.
-/

namespace ImageImports.Text

/-- Whether a character has the property of being white space.  Every such character is a blank of
patterns; the four information separators are blanks of patterns only. -/
def isWhiteSpace (c : Char) : Bool :=
  Unicode.isBlank c.toNat && !(0x1C ≤ c.toNat && c.toNat ≤ 0x1F)

/-- The characters between the first and the last one that do not satisfy `p`. -/
def trimList (p : Char → Bool) (cs : List Char) : List Char :=
  (((cs.dropWhile p).reverse).dropWhile p).reverse

/-- The text without white space at its ends. -/
def trim (s : String) : String := String.ofList (trimList isWhiteSpace s.toList)

theorem length_dropWhile_le (p : Char → Bool) (cs : List Char) :
    (cs.dropWhile p).length ≤ cs.length :=
  (List.dropWhile_sublist p).length_le

theorem length_trim_le (s : String) : (trim s).length ≤ s.length := by
  have h₁ := length_dropWhile_le isWhiteSpace s.toList
  have h₂ := length_dropWhile_le isWhiteSpace (s.toList.dropWhile isWhiteSpace).reverse
  simp only [List.length_reverse] at h₂
  have h₃ : (trim s).length = (trimList isWhiteSpace s.toList).length := by
    rw [trim, String.length_ofList]
  have h₄ : s.toList.length = s.length := String.length_toList
  simp only [trimList, List.length_reverse] at h₃
  omega

/-- The pieces of a text between the characters that satisfy `p`; there is one more piece than there
are such characters. -/
def splitList (p : Char → Bool) : List Char → List (List Char)
  | [] => [[]]
  | c :: rest =>
    if p c then [] :: splitList p rest
    else match splitList p rest with
      | piece :: more => (c :: piece) :: more
      | [] => [[c]]

/-- The pieces of a text between its line feeds. -/
def lines (s : String) : List String := (splitList (· = '\n') s.toList).map String.ofList

/-- The text with blanks behind it up to `width` characters. -/
def padRight (width : Nat) (s : String) : String := s ++ "".pushn ' ' (width - s.length)

end ImageImports.Text

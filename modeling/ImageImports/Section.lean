import ImageImports.Bytes

/-!
# Sections and address translation

An image names everything by its address once loaded, and the section table says which bytes of the
file end up there.  A section covers as many addresses as the larger of its two sizes says, but only
its raw data has a place in the file: an address behind the raw data lies in the section and maps to
nothing.  Where sections overlap, the first one in the table wins.

All numbers are integers without bounds, because a table may come from anywhere.

## Main results

* `SectionMap.toOffset?_eq_some_iff` — an address has a file offset exactly when the first section
  that covers it backs it with raw data.
-/

namespace ImageImports

/-- Whether bit `k` of an integer in two's complement is set. -/
def testBit (n : Int) (k : Nat) : Bool := n / (1 <<< k : Nat) % 2 = 1

/-- One row of the section table. -/
structure Section where
  name : String := ""
  virtualAddress : Int := 0
  virtualSize : Int := 0
  rawOffset : Int := 0
  rawSize : Int := 0
  characteristics : Int := 0
  deriving DecidableEq, Inhabited

namespace Section

/-- The first address behind the section. -/
def virtualEnd (s : Section) : Int := s.virtualAddress + max s.virtualSize s.rawSize

/-- The first file offset behind the section's data. -/
def rawEnd (s : Section) : Int := s.rawOffset + s.rawSize

/-- Whether the section covers an address. -/
def covers (s : Section) (rva : Int) : Bool := s.virtualAddress ≤ rva && rva < s.virtualEnd

/-- The characteristics that are shown, by bit, in the order in which they are shown. -/
def flagNames : List (Nat × String) :=
  [(30, "R"), (31, "W"), (29, "X"), (5, "CODE"), (6, "IDATA"), (7, "UDATA")]

/-- The characteristics in words, a dash when none of the shown ones is set. -/
def flagText (characteristics : Int) : String :=
  let set := (flagNames.filter fun (bit, _) => testBit characteristics bit).map (·.2)
  if set.isEmpty then "-" else " ".intercalate set

/-- The characteristics of a section in words. -/
def flags (s : Section) : String := flagText s.characteristics

/-- The name that stands for a section without one. -/
def unnamed : String := "<unnamed>"

/-- The name a section is listed under. -/
def displayName (s : Section) : String := if s.name.isEmpty then unnamed else s.name

end Section

/-- The section table as a translation of addresses, in table order. -/
abbrev SectionMap := List Section

namespace SectionMap

/-- The first section that covers an address. -/
def sectionAt? (sections : SectionMap) (rva : Int) : Option Section :=
  sections.find? (·.covers rva)

/-- The file offset of an address, none when no raw data backs it. -/
def toOffset? (sections : SectionMap) (rva : Int) : Option Int :=
  (sections.sectionAt? rva).bind fun s =>
    let delta := rva - s.virtualAddress
    if delta < s.rawSize then some (s.rawOffset + delta) else none

/-- The file offset at which the data of the section that covers an address ends. -/
def rawEndAt? (sections : SectionMap) (rva : Int) : Option Int :=
  (sections.sectionAt? rva).map Section.rawEnd

theorem toOffset?_eq_some_iff {sections : SectionMap} {rva offset : Int} :
    sections.toOffset? rva = some offset ↔
      ∃ s, sections.sectionAt? rva = some s ∧ rva - s.virtualAddress < s.rawSize
        ∧ s.rawOffset + (rva - s.virtualAddress) = offset := by
  simp only [toOffset?, Option.bind_eq_some_iff]
  constructor
  · rintro ⟨s, hs, h⟩
    split at h
    · exact ⟨s, hs, ‹_›, by simpa using h⟩
    · cases h
  · rintro ⟨s, hs, hlt, rfl⟩
    exact ⟨s, hs, by simp [hlt]⟩

end SectionMap

end ImageImports

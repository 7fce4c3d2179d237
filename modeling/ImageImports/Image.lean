import ImageImports.Directory
import ImageImports.Import.Table
import ImageImports.Calendar

/-!
# Analysed images

What an analysis says about one image: its header data, its sections, its directories and the table
of its imports.
-/

namespace ImageImports

/-- Header data of an image. -/
structure ImageInfo where
  path : String := ""
  size : Int := 0
  machine : Int := 0
  arch : String := "unknown"
  /-- 32 or 64, zero when the optional header could not be read. -/
  bits : Int := 0
  entryPoint : Int := 0
  imageBase : Int := 0
  subsystem : String := ""
  isDll : Bool := false
  /-- Seconds since 1970 at which the image was linked, zero when unset. -/
  timestamp : Int := 0
  md5 : String := ""
  sha256 : String := ""
  deriving DecidableEq, Inhabited

namespace ImageInfo

/-- When the image was linked, if that is set and a time of the calendar. -/
def linkedAt? (i : ImageInfo) : Option Calendar.Second :=
  if i.timestamp = 0 then none else Calendar.Second.ofEpoch? i.timestamp

/-- The name of the image format. -/
def formatName (i : ImageInfo) : String := if i.bits = 64 then "PE32+" else "PE32"

end ImageInfo

/-- The structure of one image. -/
structure Analysis where
  info : ImageInfo := {}
  sections : List Section := []
  directories : List DataDirectory := []
  imports : Import.Table := {}
  /-- Whether the headers were valid. -/
  parsed : Bool := false
  deriving DecidableEq, Inhabited

end ImageImports

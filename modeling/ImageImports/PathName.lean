import ImageImports.Text

/-!
# Path names

A path name is a text of parts between slashes.  Its tidy form drops empty parts and single dots,
which name nothing, and keeps double dots, because what they name depends on the files.

## Main results

* `tidyParts_tidyParts` — a tidy path is not tidied further.
-/

namespace ImageImports.PathName

/-- The parts of a path name, empty ones included. -/
def parts (path : String) : List String := (Text.splitList (· = '/') path.toList).map String.ofList

/-- The parts that name something. -/
def tidyParts (parts : List String) : List String := parts.filter fun p => p ≠ "" ∧ p ≠ "."

theorem tidyParts_tidyParts (ps : List String) : tidyParts (tidyParts ps) = tidyParts ps := by
  simp [tidyParts, List.filter_filter]

/-- Whether a path name starts at the root. -/
def isAbsolute (path : String) : Bool := path.startsWith "/"

/-- What stands for the root: one slash, or the two that a path name begins with exactly. -/
def root (path : String) : String :=
  if path.startsWith "//" ∧ ¬ path.startsWith "///" then "//"
  else if isAbsolute path then "/" else ""

/-- The path name in tidy form, a dot when nothing is left. -/
def tidy (path : String) : String :=
  let body := root path ++ "/".intercalate (tidyParts (parts path))
  if body.isEmpty then "." else body

/-- The last part of a path name, empty when there is none. -/
def lastPart (path : String) : String := ((tidyParts (parts path)).getLast?).getD ""

/-- The path name without its last part. -/
def parent (path : String) : String :=
  tidy (root path ++ "/".intercalate (tidyParts (parts path)).dropLast)

/-- What stands behind the last dot of the last part, with the dot; nothing when that dot is its
first or its last character. -/
def suffix (path : String) : String :=
  let pieces := Text.splitList (· = '.') (lastPart path).toList
  match pieces.getLast? with
  | some last =>
    if last.isEmpty ∨ (pieces.dropLast.all List.isEmpty ∧ pieces.length ≤ 2) then ""
    else String.ofList ('.' :: last)
  | none => ""

/-- The most bytes of a part of a path name. -/
def maxPartBytes : Nat := 255

/-- The most bytes of a path name. -/
def maxBytes : Nat := 4095

/-- Whether a part of a path name is too long to name anything. -/
def isLongPart (part : String) : Bool := maxPartBytes < part.utf8ByteSize

/-- Whether a path name as a whole is too long to be followed. -/
def isLong (path : String) : Bool := maxBytes < path.utf8ByteSize

/-- Follows parts from a place, double dots leading back out of the last part. -/
def follow (place : List String) : List String → List String
  | [] => place
  | p :: rest => follow (if p = ".." then place.dropLast else place ++ [p]) rest

/-- The place that a path name leads to from the place `home`. -/
def resolve (home : List String) (path : String) : List String :=
  follow (if isAbsolute path then [] else home) (tidyParts (parts path))

/-- The places on the way that a path name takes from the place `home`, without its end. -/
def way (home : List String) (path : String) : List (List String) :=
  let parts := tidyParts (parts path)
  (List.range parts.length).map fun n =>
    follow (if isAbsolute path then [] else home) (parts.take n)

/-- The path name of a place. -/
def ofPlace (place : List String) : String := "/" ++ "/".intercalate place

end ImageImports.PathName

import ImageImports.Section

/-!
# The directory array

The optional header ends in an array of directories, each an address and a size.  `locate` resolves
one of them to a file offset.  An image without such a directory — the array is too short, or the
address is zero — is no error; an address that no section backs is.
-/

namespace ImageImports

/-- An entry of the directory array. -/
structure DataDirectory where
  rva : Int := 0
  size : Int := 0
  deriving DecidableEq, Inhabited

namespace DataDirectory

/-- The index of the import directory. -/
def importIndex : Int := 1

/-- A directory that was found in the file. -/
structure Location where
  index : Int
  rva : Int
  size : Int
  offset : Int
  deriving DecidableEq, Inhabited

/-- A directory whose address no section backs. -/
structure Unreachable where
  index : Int
  rva : Int
  deriving DecidableEq, Inhabited

/-- How the failure is told. -/
def Unreachable.message (e : Unreachable) : String :=
  s!"data directory {e.index} at RVA {Bytes.hexNumber e.rva} is outside every section"

/-- The entry at an index; a negative index counts from the end of the array. -/
def entry? (directories : List DataDirectory) (index : Int) : Option DataDirectory :=
  if 0 ≤ index then directories[index.toNat]?
  else if -index ≤ directories.length then directories[directories.length - index.natAbs]?
  else none

/-- Resolves the directory of that index. -/
def locate (directories : List DataDirectory) (sections : SectionMap) (index : Int) :
    Except Unreachable (Option Location) :=
  match entry? directories index with
  | none => .ok none
  | some directory =>
    if directory.rva = 0 then .ok none
    else match sections.toOffset? directory.rva with
      | none => .error ⟨index, directory.rva⟩
      | some offset => .ok (some ⟨index, directory.rva, directory.size, offset⟩)

end DataDirectory

end ImageImports

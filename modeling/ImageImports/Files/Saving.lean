import ImageImports.Files
import ImageImports.Text.Quoted

/-!
# Saving files

A file is saved under a path name; directories that are missing on the way are made.

## Main results

* `at?_save` — what was saved is found at the place it was saved to.
-/

namespace ImageImports.Files

/-- Why a file cannot be saved. -/
inductive SaveFault where
  /-- What should be the file's directory is a file. -/
  | parentIsFile (path : String)
  /-- A file stands further up on the way to the directory. -/
  | blocked (path : String)
  /-- The path name leads to a directory. -/
  | isDirectory (path : String)
  /-- The path name leads to a file that is locked. -/
  | denied (path : String)
  /-- The path name, or a part of it, is too long. -/
  | tooLong (path : String)
  deriving DecidableEq, Repr

/-- How the fault is told. -/
def SaveFault.message : SaveFault → String
  | parentIsFile path => s!"[Errno 17] File exists: {Text.quoted path}"
  | blocked path => s!"[Errno 20] Not a directory: {Text.quoted path}"
  | isDirectory path => s!"[Errno 21] Is a directory: {Text.quoted path}"
  | denied path => s!"[Errno 13] Permission denied: {Text.quoted path}"
  | tooLong path => s!"[Errno 36] File name too long: {Text.quoted path}"

/-- Whether a file is at a place. -/
def isFile (files : Files) (place : List String) : Bool :=
  match files.at? place with
  | some (.file _) | some (.locked _) => true
  | _ => false

/-- Whether a locked file is at a place. -/
def isLocked (files : Files) (place : List String) : Bool :=
  match files.at? place with
  | some (.locked _) => true
  | _ => false

/-- The places on the way to the directory that a path name names. -/
def way (files : Files) (path : String) : List (List String) :=
  let parts := PathName.tidyParts (PathName.parts path)
  (List.range (parts.length + 1)).map fun n =>
    PathName.follow (if PathName.isAbsolute path then [] else files.home) (parts.take n)

/-- What keeps the directory of a tidy path name from being made.  Directories are made one by one
from the first missing one on, so behind a missing one the path name of a fault ends where the fault
is. -/
def directoryObstacle? (files : Files) (path : String) : Option SaveFault :=
  if PathName.isLong path then some (.tooLong path)
  else
    let parts := PathName.tidyParts (PathName.parts path)
    let places := files.way path
    let firstLong := parts.findIdx PathName.isLongPart
    let firstFile := places.findIdx files.isFile
    if firstFile < parts.length ∧ firstFile ≤ firstLong then some (.blocked path)
    else if firstLong < parts.length then
      let isMissing := (places.take (firstLong + 1)).any fun place => (files.at? place).isNone
      some (.tooLong (if isMissing then
          PathName.root path ++ "/".intercalate (parts.take (firstLong + 1))
        else path))
    else if firstFile = parts.length then some (.parentIsFile path)
    else none

/-- What keeps a file from being saved under a tidy path name. -/
def obstacle? (files : Files) (path : String) : Option SaveFault :=
  (files.directoryObstacle? (PathName.parent path)).or <|
    if PathName.isLong path || PathName.isLongPart (PathName.lastPart path) then
      some (.tooLong path)
    else if files.isDirectory (PathName.resolve files.home path) then some (.isDirectory path)
    else if files.isLocked (PathName.resolve files.home path) then some (.denied path)
    else none

/-- The tree with a file saved under a path name, and the file's place. -/
def save (files : Files) (path : String) (bytes : ByteArray) :
    Except SaveFault (Files × List String) :=
  match files.obstacle? (PathName.tidy path) with
  | some fault => .error fault
  | none =>
    let place := PathName.resolve files.home path
    .ok (files.write place bytes, place)

theorem at?_save {files saved : Files} {path : String} {bytes : ByteArray} {place : List String}
    (h : files.save path bytes = .ok (saved, place)) : saved.at? place = some (.file bytes) := by
  unfold save at h
  split at h
  · simp only [reduceCtorEq] at h
  · simp only [Except.ok.injEq, Prod.mk.injEq] at h
    rw [← h.1, ← h.2]
    exact at?_write ..

end ImageImports.Files

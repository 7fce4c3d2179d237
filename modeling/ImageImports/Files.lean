import ImageImports.PathName
import ImageImports.Text.Quoted

/-!
# Files

A tree of files as an inspection sees it: places with bytes or with a directory, and a home place
from which path names lead.  A directory is there as soon as something lies below it.  A file can be
locked: that it is there and how large it is can be seen, but it can be neither read nor written.

## Main results

* `at?_write` — what was written to a place is found there.
* `fileSize_of_openFile` — a file that can be opened is seen with the size of its bytes.
-/

namespace ImageImports

/-- What can be at a place. -/
inductive FileNode where
  | file (bytes : ByteArray)
  /-- A file that may be neither read nor written. -/
  | locked (size : Nat)
  | directory
  deriving Inhabited

/-- A tree of files. -/
structure Files where
  /-- Where path names that are not absolute start. -/
  home : List String
  /-- What there is, by place; the first entry of a place counts. -/
  entries : List (List String × FileNode) := []

namespace Files

/-- What is at a place. -/
def at? (files : Files) (place : List String) : Option FileNode :=
  match files.entries.lookup place with
  | some node => some node
  | none =>
    if place <+: files.home ∨ files.entries.any fun (other, _) => place <+: other then
      some .directory
    else none

/-- Whether a place is a directory. -/
def isDirectory (files : Files) (place : List String) : Bool :=
  match files.at? place with
  | some .directory => true
  | _ => false

/-- Why a path name leads to nothing. -/
inductive WayFault where
  /-- Nothing is there. -/
  | missing
  /-- What should be a directory on the way is a file. -/
  | blocked
  /-- The path name, or a part of it that is reached, is too long. -/
  | tooLong
  deriving DecidableEq, Repr

/-- Follows the parts of a path name, each from a directory. -/
def walk (files : Files) (place : List String) : List String → Except WayFault (List String)
  | [] => .ok place
  | p :: rest =>
    match files.at? place with
    | none => .error .missing
    | some (.file _) | some (.locked _) => .error .blocked
    | some .directory =>
      if p = "" ∨ p = "." then files.walk place rest
      else if p = ".." then files.walk place.dropLast rest
      else if PathName.isLongPart p then .error .tooLong
      else files.walk (place ++ [p]) rest

/-- The place that a path name leads to, and what is there. -/
def reach (files : Files) (path : String) : Except WayFault (List String × FileNode) :=
  if path.isEmpty ∨ path.toList.contains '\x00' then .error .missing
  else if PathName.isLong path then .error .tooLong
  else
    (files.walk (if PathName.isAbsolute path then [] else files.home) (PathName.parts path)).bind
      fun place => match files.at? place with
        | some node => .ok (place, node)
        | none => .error .missing

/-- The place where a path name leads to something. -/
def find? (files : Files) (path : String) : Option (List String × FileNode) :=
  (files.reach path).toOption

/-- Why a file cannot be opened. -/
inductive OpenFault where
  | way (fault : WayFault) (path : String)
  | isDirectory (path : String)
  /-- The file is locked. -/
  | denied (path : String)
  /-- The path name holds the character that ends texts outside. -/
  | zeroInPath
  deriving DecidableEq, Repr

/-- How the fault is told. -/
def OpenFault.message : OpenFault → String
  | way .missing path => s!"[Errno 2] No such file or directory: {Text.quoted path}"
  | way .blocked path => s!"[Errno 20] Not a directory: {Text.quoted path}"
  | way .tooLong path => s!"[Errno 36] File name too long: {Text.quoted path}"
  | isDirectory path => s!"[Errno 21] Is a directory: {Text.quoted path}"
  | denied path => s!"[Errno 13] Permission denied: {Text.quoted path}"
  | zeroInPath => "embedded null byte"

/-- The size of the file that a path name leads to, or why there is none. -/
def fileSize (files : Files) (path : String) : Except OpenFault Nat :=
  if path.toList.contains '\x00' then .error .zeroInPath
  else match files.reach path with
    | .error fault => .error (.way fault path)
    | .ok (_, .directory) => .error (.isDirectory path)
    | .ok (_, .file bytes) => .ok bytes.size
    | .ok (_, .locked size) => .ok size

/-- The bytes of the file that a path name leads to, or why there are none. -/
def openFile (files : Files) (path : String) : Except OpenFault ByteArray :=
  if path.toList.contains '\x00' then .error .zeroInPath
  else match files.reach path with
    | .error fault => .error (.way fault path)
    | .ok (_, .directory) => .error (.isDirectory path)
    | .ok (_, .locked _) => .error (.denied path)
    | .ok (_, .file bytes) => .ok bytes

theorem fileSize_of_openFile {files : Files} {path : String} {bytes : ByteArray}
    (h : files.openFile path = .ok bytes) : files.fileSize path = .ok bytes.size := by
  unfold openFile at h
  unfold fileSize
  split at h
  · cases h
  · next hzero =>
    rw [if_neg hzero]
    split at h
    · cases h
    · cases h
    · cases h
    · next hreach =>
      cases h
      rw [hreach]

/-- The bytes of the file that a path name leads to. -/
def read? (files : Files) (path : String) : Option ByteArray :=
  match files.find? path with
  | some (_, .file bytes) => some bytes
  | _ => none

/-- The tree with a file of these bytes at a place. -/
def write (files : Files) (place : List String) (bytes : ByteArray) : Files :=
  { files with entries := (place, .file bytes) :: files.entries }

/-- The tree with something at the end of a path name, and directories on the way to it. -/
def install (files : Files) (path : String) (node : FileNode) : Files :=
  { files with
    entries := (PathName.resolve files.home path, node) :: files.entries
      ++ (PathName.way files.home path).map (·, .directory) }

theorem at?_write (files : Files) (place : List String) (bytes : ByteArray) :
    (files.write place bytes).at? place = some (.file bytes) := by
  simp [write, at?]

end Files

end ImageImports

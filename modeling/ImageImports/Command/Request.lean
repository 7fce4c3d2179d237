import ImageImports.Command.Words
import ImageImports.Files
import ImageImports.Query

/-!
# Requests

What a command line asks for, once its parts have been checked: the paths lead to files, the patterns
are patterns, and the settings file is there.  Of an option that is given more than once the last
value counts, and options are checked in the order in which they are first given.
-/

namespace ImageImports.Command

/-- What is asked for. -/
structure Request where
  paths : List String := []
  /-- The library whose symbols are listed. -/
  library? : Option String := none
  /-- The pattern of the symbols to search. -/
  search? : Option String := none
  /-- The pattern of the libraries that are searched. -/
  libraryPattern : String := Import.anyLibrary
  ignoreCase : Bool := false
  /-- Whether the report goes to the screen as a record. -/
  json : Bool := false
  /-- Where a report is stored. -/
  output? : Option String := none
  /-- Where the settings are. -/
  config? : Option String := none
  verbose : Bool := false
  deriving Inhabited

/-- Why a request is not carried out. -/
inductive Rejection where
  | words (fault : WordFault)
  | noPaths
  | notThere (path : String)
  | isDirectory (path : String)
  /-- The file is locked. -/
  | notReadable (path : String)
  | malformedPattern (pattern : String)
  /-- The pattern is beyond what patterns can say. -/
  | overlargePattern (fault : Pattern.PatternFault)
  /-- A path name holds the character that ends texts outside. -/
  | zeroInPath
  /-- Help is asked for. -/
  | help

namespace Request

/-- A path that leads to a file that is not locked, or to nothing if it need not be there. -/
def checkPath (files : Files) (there : Bool) (path : String) : Except Rejection Unit :=
  if path.toList.contains '\x00' then .error .zeroInPath
  else match files.find? path with
    | none => if there then .error (.notThere path) else .ok ()
    | some (_, .directory) => .error (.isDirectory path)
    | some (_, .locked _) => .error (.notReadable path)
    | some (_, .file _) => .ok ()

/-- A text that is a pattern. -/
def checkPattern (pattern : String) : Except Rejection Unit :=
  match Import.nameTest pattern true with
  | .ok _ => .ok ()
  | .error .malformed => .error (.malformedPattern pattern)
  | .error fault => .error (.overlargePattern fault)

/-- The request with the value of an option. -/
def withValue (files : Files) (r : Request) (name : OptionName) (text : String) :
    Except Rejection Request :=
  match name with
  | .library => .ok { r with library? := some text }
  | .search => (checkPattern text).map fun _ => { r with search? := some text }
  | .libraryPattern => (checkPattern text).map fun _ => { r with libraryPattern := text }
  | .output => (checkPath files false text).map fun _ =>
    { r with output? := if text.isEmpty then none else some text }
  | .config => (checkPath files true text).map fun _ => { r with config? := some text }
  | _ => .ok r

/-- The request with a flag set. -/
def withFlag (r : Request) : OptionName → Request
  | .ignoreCase => { r with ignoreCase := true }
  | .json => { r with json := true }
  | .verbose => { r with verbose := true }
  | _ => r

/-- The last value that is given for an option. -/
def lastValue? (parts : List Part) (name : OptionName) : Option String :=
  parts.reverse.findSome? fun
    | .value other text => if other = name then some text else none
    | _ => none

/-- The request with all options of some parts, `seen` being those that it has already. -/
def withOptions (files : Files) (all : List Part) (seen : List OptionName) (r : Request) :
    List Part → Except Rejection Request
  | [] => .ok r
  | .flag name :: rest => (r.withFlag name).withOptions files all seen rest
  | .value name _ :: rest =>
    if seen.contains name then r.withOptions files all seen rest
    else do
      let r ← r.withValue files name ((lastValue? all name).getD "")
      r.withOptions files all (name :: seen) rest
  | .path _ :: rest => r.withOptions files all seen rest

/-- The paths among some parts. -/
def pathsOf (parts : List Part) : List String :=
  parts.filterMap fun
    | .path text => some text
    | _ => none

/-- The request that parts make. -/
def ofParts (files : Files) (parts : List Part) : Except Rejection Request := do
  if parts.contains (.flag .help) then throw .help
  let r ← ({} : Request).withOptions files parts [] parts
  let paths := pathsOf parts
  if paths.isEmpty then throw .noPaths
  paths.forM (checkPath files true)
  return { r with paths }

/-- The request that the words of a command line make. -/
def ofWords (files : Files) (words : List String) : Except Rejection Request :=
  match read words with
  | .error fault => .error (.words fault)
  | .ok parts => ofParts files parts

end Request

end ImageImports.Command

import ImageImports.Command.Run
import Std.Time.DateTime.Timestamp

/-!
# The program

Looks up the files that the command line names, runs the command, shows what it shows and writes what
it stored.
-/

namespace ImageImports.Main

open Command (Environment Part)

/-- What is at a place of the file system. -/
def nodeAt? (place : List String) : IO (Option FileNode) := do
  let path := PathName.ofPlace place
  try
    return some (.file (← IO.FS.readBinFile path))
  catch _ =>
    try
      let about ← (← IO.FS.realPath path).metadata
      match about.type with
      | .dir => return some .directory
      | .file => return some (.locked about.byteSize.toNat)
      | _ => return none
    catch _ => return none

/-- The tree with what is at a place and at the places on the way to it. -/
def lookUp (files : Files) (place : List String) : IO Files := do
  let mut files := files
  for n in List.range (place.length + 1) do
    let spot := place.take n
    unless spot.isPrefixOf files.home || (files.entries.lookup spot).isSome do
      if let some node ← nodeAt? spot then
        files := { files with entries := (spot, node) :: files.entries }
  return files

/-- The path names that parts of a command line mention. -/
def mentioned (parts : List Part) : List String :=
  parts.filterMap fun
    | .path text | .value .output text | .value .config text => some text
    | _ => none

/-- The tree of the files that a command line mentions. -/
def surroundings (home : List String) (words : List String) : IO Files := do
  let parts := (Command.read words).toOption.getD []
  let mut files : Files := { home }
  for path in mentioned parts do
    unless path.isEmpty || path.toList.contains '\x00' do
      files ← lookUp files (PathName.resolve home path)
  if let .ok request := Command.Request.ofParts files parts then
    if let .ok settings := Command.settingsOf files request then
      if let .text log := settings.general.get "log_file" then
        files ← lookUp files (PathName.resolve home log)
  return files

/-- Writes the files that one tree has beyond another. -/
def writeNew (before after : Files) : IO Unit := do
  let new := after.entries.take (after.entries.length - before.entries.length)
  for (place, node) in new.reverse do
    if let .file bytes := node then
      IO.FS.createDirAll (PathName.ofPlace place.dropLast)
      IO.FS.writeBinFile (PathName.ofPlace place) bytes

/-- The cells of a line on the screen. -/
def screenWidth : IO Nat := do
  return ((← IO.getEnv "COLUMNS").bind String.toNat?).getD 80

/-- Microseconds since 1970 began. -/
def microseconds : IO Int := do
  return (← Std.Time.Timestamp.now).toNanosecondsSinceUnixEpoch.val / 1000

/-- Runs the command with some words and gives the status it ends with. -/
def run (words : List String) : IO UInt32 := do
  let home := PathName.tidyParts (PathName.parts (← IO.currentDir).toString)
  -- The files are read here, and this is what takes the time of a scan.
  let began ← microseconds
  let files ← surroundings home words
  let span : Calendar.Span := ⟨⟨began, some 0⟩, (← microseconds) - began⟩
  let env : Environment :=
    { files, width := ← screenWidth, clock := fun _ => span, timeText := span.ended.text }
  let outcome := Command.run env words
  IO.print outcome.screen
  writeNew files outcome.files
  match outcome.ending with
  | .status code =>
    if code = 2 then IO.eprintln "Try '--help' for help."
    return code.toUInt32
  | .stopped _ =>
    IO.eprintln "The run was stopped."
    return 1

end ImageImports.Main

/-- The program. -/
def main (words : List String) : IO UInt32 := ImageImports.Main.run words

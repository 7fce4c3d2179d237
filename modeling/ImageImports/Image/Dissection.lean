import ImageImports.Image
import ImageImports.Image.Header
import ImageImports.Import.Directory

/-!
# Taking an image apart

A `Dissection` holds what has been read of an image so far.  `parse` reads the file header, which an
image must have, then the optional header with its directories, the section table, and the
directory of imports, each of which may be damaged: what cannot be read is left at its default and
noted.  The headers are read aside, so only the directory of imports moves the head.

Parsing begins from what is there: sections are added to those already known.
-/

namespace ImageImports

/-- What has been read of an image. -/
structure Dissection where
  name : String
  reader : Reader
  /-- Where the signature stands. -/
  signatureAt : Nat := 0
  file : Header.File := {}
  optional : Header.Optional := {}
  /-- Whether the optional header was read completely. -/
  optionalRead : Bool := false
  directories : List DataDirectory := []
  sections : List Section := []
  imports : Import.Table := {}
  parsed : Bool := false
  deriving Inhabited

namespace Dissection

/-- An image of which nothing has been read. -/
def start (name : String) (bytes : ByteArray) : Dissection := { name, reader := { data := bytes } }

/-- The width that the optional header announced. -/
def bits? (d : Dissection) : Option Int :=
  if d.optionalRead then (Header.layout? d.optional.magic).map (·.bits) else none

/-- The bytes of a record, if they are all there. -/
def record? (d : Dissection) (offset size : Nat) : Option ByteArray := (d.reader.readAt offset size).1

/-- Whether a mark stands at an offset. -/
def hasMark (d : Dissection) (offset : Nat) (mark : List UInt8) : Bool :=
  (d.record? offset mark.length).any fun run => run.data.toList = mark

/-! ## Headers -/

/-- The file header behind the signature, if both are there. -/
def readFile? (d : Dissection) : Option Dissection :=
  if d.reader.size < Header.minimumSize then none
  else if !d.hasMark 0 Header.dosMagic then none
  else
    match d.record? Header.signatureOffsetAt 4 with
    | none => none
    | some offset =>
      let signatureAt := Bytes.littleEndian offset
      if !d.hasMark signatureAt Header.signature then none
      else (d.record? (signatureAt + 4) Header.File.recordSize).map fun record =>
        { d with signatureAt, file := .decode record }

/-- Where the optional header begins. -/
def optionalAt (d : Dissection) : Nat := d.signatureAt + 4 + Header.File.recordSize

/-- The directories from `offset` on; one that the file does not hold is empty. -/
def readDirectories (d : Dissection) (offset count : Nat) : List DataDirectory :=
  (List.range (min count Header.maxDirectories)).map fun i =>
    match d.record? (offset + i * Header.directorySize) Header.directorySize with
    | some record => Header.decodeDirectory record
    | none => {}

/-- The optional header with its directories. -/
def readOptional (d : Dissection) : Dissection × List Log.Record :=
  if d.file.optionalSize = 0 then (d, [⟨.debug, none, "Image has no optional header"⟩])
  else match d.record? d.optionalAt 2 with
    | none => (d, [])
    | some magic =>
      let magic := Bytes.littleEndian magic
      let d := { d with optional := { d.optional with magic } }
      match Header.layout? magic with
      | none => (d, [⟨.warning, none, s!"Unknown optional header magic {Bytes.hexNumber magic}"⟩])
      | some layout =>
        let systemAt := d.optionalAt + layout.standardSize
        match d.record? d.optionalAt layout.standardSize, d.record? systemAt layout.systemSize with
        | some standard, some system =>
          let optional := Header.Optional.decode layout magic standard system
          let directories :=
            d.readDirectories (systemAt + layout.systemSize) optional.directoryCount
          ({ d with optional, directories, optionalRead := true }, [])
        | _, _ => (d, [⟨.warning, none, "Optional header is truncated"⟩])

/-! ## Section table -/

/-- The first `count` sections of the section table, fewer when the file ends before. -/
def readSections (d : Dissection) (offset : Nat) : Nat → List Section
  | 0 => []
  | count + 1 =>
    match d.record? offset Header.sectionSize with
    | none => []
    | some record =>
      Header.decodeSection record :: d.readSections (offset + Header.sectionSize) count

/-- The section table. -/
def readSectionTable (d : Dissection) : Dissection × List Log.Record :=
  let declared := d.file.sectionCount
  let found := d.readSections (d.optionalAt + d.file.optionalSize) declared
  let notes : List Log.Record :=
    if found.length < declared then
      [⟨.warning, none, s!"Section table truncated after {found.length} of {declared} entries"⟩]
    else []
  ({ d with sections := d.sections ++ found }, notes)

/-! ## The whole image -/

/-- What a parse leaves. -/
structure Outcome where
  /-- Whether the bytes are an image. -/
  accepted : Bool
  dissection : Dissection
  log : List Log.Record
  /-- A setting that could not be used. -/
  fault? : Option Import.SettingFault

/-- Reads the headers, the section table and the import directory. -/
def parse (d : Dissection) (limits : Import.Limits) : Outcome :=
  match d.readFile? with
  | none => ⟨false, d, [], none⟩
  | some d =>
    let (d, optionalNotes) := d.readOptional
    let (d, sectionNotes) := d.readSectionTable
    let imports := Import.read d.reader d.sections d.directories d.bits? limits
    let log := optionalNotes ++ sectionNotes ++ imports.log
    match imports.fault? with
    | some fault => ⟨false, { d with reader := imports.reader }, log, some fault⟩
    | none =>
      ⟨true, { d with reader := imports.reader, imports := imports.table, parsed := true }, log, none⟩

/-- Whether the image is a library. -/
def isDll (d : Dissection) : Bool := d.file.isDll

/-- The header data read so far, without digests. -/
def info (d : Dissection) : ImageInfo where
  path := d.name
  size := d.reader.size
  machine := d.file.machine
  arch := Header.machineName d.file.machine
  bits := d.bits?.getD 0
  entryPoint := d.optional.entryPoint
  imageBase := d.optional.imageBase
  subsystem := Header.subsystemName d.optional.subsystem
  isDll := d.isDll
  timestamp := d.file.timestamp

/-- Everything read so far. -/
def analysis (d : Dissection) : Analysis where
  info := d.info
  sections := d.sections
  directories := d.directories
  imports := d.imports
  parsed := d.parsed

end Dissection

end ImageImports

import ImageImports.Image
import ImageImports.Schema

/-!
# Stored analyses

An analysis is stored as a record of the interchange format, and read back against the demands of
each of its places.  `encode` and `decode` are inverse to each other on what `encode` makes.
-/

namespace ImageImports

open Schema (Checked field required)

namespace Import.Descriptor

/-- The descriptor's fields. -/
def encodeFields (d : Descriptor) : List (String × Json) :=
  [("original_first_thunk", .int d.originalFirstThunk), ("time_date_stamp", .int d.timeDateStamp),
    ("forwarder_chain", .int d.forwarderChain), ("name_rva", .int d.nameRva),
    ("first_thunk", .int d.firstThunk), ("name", .text d.name)]

/-- The descriptor that a record stands for. -/
def read (j : Json) : Checked Descriptor :=
  (Schema.record j).bind fun fields =>
    Descriptor.mk
      <$> field fields "original_first_thunk" 0 Schema.integer
      <*> field fields "time_date_stamp" 0 Schema.integer
      <*> field fields "forwarder_chain" 0 Schema.integer
      <*> field fields "name_rva" 0 Schema.integer
      <*> field fields "first_thunk" 0 Schema.integer
      <*> field fields "name" "" Schema.text

end Import.Descriptor

namespace Import.Entry

/-- The entry's fields. -/
def encodeFields (e : Entry) : List (String × Json) :=
  [("raw_value", .int e.raw), ("is_ordinal", .bool e.isOrdinal), ("ordinal_or_rva", .int e.payload),
    ("hint", .ofInt? e.hint), ("name", .text e.name)]

/-- The entry that a record stands for. -/
def read (j : Json) : Checked Entry :=
  (Schema.record j).bind fun fields =>
    Entry.mk
      <$> required fields "raw_value" Schema.integer
      <*> field fields "is_ordinal" false Schema.truth
      <*> field fields "ordinal_or_rva" 0 Schema.integer
      <*> field fields "hint" none (Schema.optional Schema.integer)
      <*> field fields "name" "" Schema.text

end Import.Entry

namespace Import.Library

/-- The library as a record. -/
def encode (l : Library) : Json :=
  .object
    [("descriptor", .object l.descriptor.encodeFields),
      ("entries", .list (l.entries.map fun e => .object e.encodeFields))]

/-- The library that a record stands for. -/
def read (j : Json) : Checked Library :=
  (Schema.record j).bind fun fields =>
    Library.mk
      <$> required fields "descriptor" Descriptor.read
      <*> field fields "entries" [] (Schema.sequence Entry.read)

end Import.Library

namespace Import.Failure

/-- The failure as a record. -/
def encode (f : Failure) : Json :=
  .object
    [("kind", .text f.kind.word), ("message", .text f.message), ("offset", .ofInt? f.offset),
      ("library", .text f.library)]

/-- The failure that a record stands for. -/
def read (j : Json) : Checked Failure :=
  (Schema.record j).bind fun fields =>
    Failure.mk
      <$> required fields "kind" (Schema.word FailureKind.ofWord?)
      <*> field fields "message" "" Schema.text
      <*> field fields "offset" none (Schema.optional Schema.integer)
      <*> field fields "library" "" Schema.text

/-- The failure as a record, or nothing. -/
def encode? : Option Failure → Json
  | some f => f.encode
  | none => .null

end Import.Failure

namespace Import.Table

/-- The table as a record. -/
def encode (t : Table) : Json :=
  .object
    [("libraries", .list (t.libraries.map Library.encode)), ("bits", .int t.bits),
      ("directory_present", .bool t.directoryPresent), ("error", Failure.encode? t.error),
      ("warnings", .ofTexts t.warnings)]

/-- The table that a record stands for. -/
def decode (j : Json) : Checked Table :=
  (Schema.record j).bind fun fields =>
    Table.mk
      <$> field fields "libraries" [] (Schema.sequence Library.read)
      <*> field fields "bits" 32 Schema.integer
      <*> field fields "directory_present" true Schema.truth
      <*> field fields "error" none (Schema.optional Failure.read)
      <*> field fields "warnings" [] (Schema.sequence Schema.text)

end Import.Table

namespace Section

/-- The section's fields. -/
def encodeFields (s : Section) : List (String × Json) :=
  [("name", .text s.name), ("virtual_address", .int s.virtualAddress),
    ("virtual_size", .int s.virtualSize), ("raw_offset", .int s.rawOffset),
    ("raw_size", .int s.rawSize), ("characteristics", .int s.characteristics)]

/-- The section that a record stands for. -/
def decode (j : Json) : Checked Section :=
  (Schema.record j).bind fun fields =>
    Section.mk
      <$> field fields "name" "" Schema.text
      <*> field fields "virtual_address" 0 Schema.integer
      <*> field fields "virtual_size" 0 Schema.integer
      <*> field fields "raw_offset" 0 Schema.integer
      <*> field fields "raw_size" 0 Schema.integer
      <*> field fields "characteristics" 0 Schema.integer

end Section

namespace DataDirectory

/-- The directory as a record. -/
def encode (d : DataDirectory) : Json := .object [("rva", .int d.rva), ("size", .int d.size)]

/-- The directory that a record stands for. -/
def decode (j : Json) : Checked DataDirectory :=
  (Schema.record j).bind fun fields =>
    DataDirectory.mk <$> field fields "rva" 0 Schema.integer <*> field fields "size" 0 Schema.integer

end DataDirectory

namespace ImageInfo

/-- The fields of the header data. -/
def encodeFields (i : ImageInfo) : List (String × Json) :=
  [("path", .text i.path), ("size", .int i.size), ("machine", .int i.machine), ("arch", .text i.arch),
    ("bits", .int i.bits), ("entry_point", .int i.entryPoint), ("image_base", .int i.imageBase),
    ("subsystem", .text i.subsystem), ("is_dll", .bool i.isDll), ("timestamp", .int i.timestamp),
    ("md5", .text i.md5), ("sha256", .text i.sha256)]

/-- The header data that a record stands for. -/
def decode (j : Json) : Checked ImageInfo :=
  (Schema.record j).bind fun fields =>
    ImageInfo.mk
      <$> field fields "path" "" Schema.text
      <*> field fields "size" 0 Schema.integer
      <*> field fields "machine" 0 Schema.integer
      <*> field fields "arch" "unknown" Schema.text
      <*> field fields "bits" 0 Schema.integer
      <*> field fields "entry_point" 0 Schema.integer
      <*> field fields "image_base" 0 Schema.integer
      <*> field fields "subsystem" "" Schema.text
      <*> field fields "is_dll" false Schema.truth
      <*> field fields "timestamp" 0 Schema.integer
      <*> field fields "md5" "" Schema.text
      <*> field fields "sha256" "" Schema.text

end ImageInfo

namespace Analysis

/-- The analysis as a record. -/
def encode (a : Analysis) : Json :=
  .object
    [("info", .object a.info.encodeFields),
      ("sections", .list (a.sections.map fun s => .object s.encodeFields)),
      ("data_directories", .list (a.directories.map DataDirectory.encode)),
      ("imports", a.imports.encode), ("parsed", .bool a.parsed)]

/-- The analysis that a record stands for. -/
def decode (j : Json) : Checked Analysis :=
  (Schema.record j).bind fun fields =>
    Analysis.mk
      <$> field fields "info" {} ImageInfo.decode
      <*> field fields "sections" [] (Schema.list Section.decode)
      <*> field fields "data_directories" [] (Schema.list DataDirectory.decode)
      <*> field fields "imports" {} Import.Table.decode
      <*> field fields "parsed" false Schema.truth

/-- The name under which a scan keeps its analysis. -/
def storedName : String := "image_analysis"

/-- The analysis that a scan's stored fields hold, if they hold one. -/
def ofStored (fields : List (String × Json)) : Checked (Option Analysis) :=
  match Json.lookup? fields storedName with
  | none | some .null => .ok none
  | some j => (decode j).map some

end Analysis

end ImageImports

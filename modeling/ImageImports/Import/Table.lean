import ImageImports.Decimal.Reading
import ImageImports.Section

/-!
# The import table

The structures that an import directory decodes to: descriptors, lookup entries, libraries, and the
table that holds them with what went wrong.

A descriptor is twenty bytes, five little-endian numbers of four bytes.  A lookup entry, or *thunk*,
is a number as wide as the image's addresses; its top bit says whether the rest is an ordinal or the
address of a hint and a name.  `Entry.ofThunk` splits a number of any size by its bit `bits - 1`, in
two's complement.
-/

namespace ImageImports.Import

/-! ## Descriptors -/

/-- One record of the descriptor array, with the library name it points to. -/
structure Descriptor where
  originalFirstThunk : Int := 0
  timeDateStamp : Int := 0
  forwarderChain : Int := 0
  nameRva : Int := 0
  firstThunk : Int := 0
  name : String := ""
  deriving DecidableEq, Inhabited

namespace Descriptor

/-- The number of bytes of a record. -/
def recordSize : Nat := 20

/-- The record that the first `recordSize` bytes hold; the name is not part of it. -/
def decode (record : ByteArray) : Descriptor where
  originalFirstThunk := Bytes.field record 0 4
  timeDateStamp := Bytes.field record 4 4
  forwarderChain := Bytes.field record 8 4
  nameRva := Bytes.field record 12 4
  firstThunk := Bytes.field record 16 4

/-- The record in exactly `recordSize` bytes. -/
def decode? (record : ByteArray) : Option Descriptor :=
  if record.size = recordSize then some (decode record) else none

/-- How the refusal to decode `size` bytes is told. -/
def sizeMessage (size : Nat) : String :=
  s!"import descriptor needs {recordSize} bytes, got {size}"

/-- Whether the record ends the array: neither table is there. -/
def isSentinel (d : Descriptor) : Bool := d.originalFirstThunk = 0 && d.firstThunk = 0

/-- The address of the table to walk: the lookup table, or the address table when there is none. -/
def lookupRva (d : Descriptor) : Int :=
  if d.originalFirstThunk = 0 then d.firstThunk else d.originalFirstThunk

end Descriptor

/-! ## Lookup entries -/

/-- One imported symbol. -/
structure Entry where
  /-- The thunk as stored. -/
  raw : Int
  isOrdinal : Bool := false
  /-- The thunk without its top bit: an ordinal, or the address of a hint and a name. -/
  payload : Int := 0
  hint : Option Int := none
  name : String := ""
  deriving DecidableEq, Inhabited

namespace Entry

/-- Splits a thunk of `width + 1` bits. -/
def ofThunk (raw : Int) (width : Nat) : Entry where
  raw := raw
  isOrdinal := testBit raw width
  payload := raw % (1 <<< width : Nat)

/-- Why a number cannot be split. -/
inductive WidthFault where
  /-- There is no top bit. -/
  | noBits
  /-- The number that the top bit stands for has more digits than can be counted. -/
  | tooMany
  /-- The number that the top bit stands for needs more memory than there is. -/
  | noMemory
  deriving DecidableEq, Inhabited

/-- The words for a fault. -/
def WidthFault.message : WidthFault → String
  | noBits => "negative shift count"
  | tooMany => "too many digits in integer"
  | noMemory => ""

/-- The most bits of a number that memory holds. -/
def maxStoredBits : Int := 0x4000000000

/-- The most bits of a number whose digits, of thirty bits each, can be counted. -/
def maxCountedBits : Int := 30 * (0x2000000000000000 - 8)

/-- Splits a thunk of any number of bits. -/
def ofBits (raw bits : Int) : Except WidthFault Entry :=
  if bits ≤ 0 then .error .noBits
  else if maxCountedBits < bits - 1 then .error .tooMany
  else if maxStoredBits < bits - 1 then .error .noMemory
  else .ok (ofThunk raw (bits - 1).toNat)

/-- The address of the hint and the name: the lower 31 bits, whatever the width. -/
def hintNameRva (e : Entry) : Int := e.payload % 0x80000000

/-- What the symbol is listed as. -/
def label (e : Entry) : String := if e.isOrdinal then s!"#{e.payload}" else e.name

/-- What the symbol is listed as, unless it is an ordinal with too many digits to be written.  The
thunks of an image are too narrow for such ordinals. -/
def label? (e : Entry) : Option String :=
  if e.isOrdinal && !Decimal.isWritable e.payload then none else some e.label

end Entry

/-! ## Libraries and the table -/

/-- An imported library and its symbols, in the order of its lookup table. -/
structure Library where
  descriptor : Descriptor
  entries : List Entry := []
  deriving DecidableEq, Inhabited

/-- The library's name. -/
def Library.name (l : Library) : String := l.descriptor.name

/-- What the symbols of a library are listed as, unless one of them cannot be. -/
def Library.labels? (l : Library) : Option (List String) := l.entries.mapM Entry.label?

/-- What can end the reading of an import directory early. -/
inductive FailureKind where
  | headerUnavailable
  | directoryUnreachable
  | descriptorUnreadable
  | descriptorNameUnreadable
  | lookupTableUnreachable
  | lookupTableUnreadable
  | hintNameTableUnreachable
  | hintNameUnreadable
  | tableTooLarge
  | possibleLoop
  deriving DecidableEq, Inhabited

namespace FailureKind

/-- All kinds, in the order in which they are declared. -/
def all : List FailureKind :=
  [headerUnavailable, directoryUnreachable, descriptorUnreadable, descriptorNameUnreadable,
    lookupTableUnreachable, lookupTableUnreadable, hintNameTableUnreachable, hintNameUnreadable,
    tableTooLarge, possibleLoop]

/-- The word a kind is stored and shown as. -/
def word : FailureKind → String
  | headerUnavailable => "header_unavailable"
  | directoryUnreachable => "directory_unreachable"
  | descriptorUnreadable => "descriptor_unreadable"
  | descriptorNameUnreadable => "descriptor_name_unreadable"
  | lookupTableUnreachable => "lookup_table_unreachable"
  | lookupTableUnreadable => "lookup_table_unreadable"
  | hintNameTableUnreachable => "hint_name_table_unreachable"
  | hintNameUnreadable => "hint_name_unreadable"
  | tableTooLarge => "table_too_large"
  | possibleLoop => "possible_loop"

/-- The kind that a word stands for. -/
def ofWord? (s : String) : Option FailureKind := all.find? (·.word = s)

end FailureKind

/-- Why and where the reading of an import directory ended early. -/
structure Failure where
  kind : FailureKind
  message : String := ""
  /-- The file offset, or the address where there is no offset. -/
  offset : Option Int := none
  library : String := ""
  deriving DecidableEq, Inhabited

/-- The import directory of one image. -/
structure Table where
  libraries : List Library := []
  /-- The width of the thunks. -/
  bits : Int := 32
  /-- False when the image declares no imports. -/
  directoryPresent : Bool := true
  error : Option Failure := none
  warnings : List String := []
  deriving DecidableEq, Inhabited

namespace Table

/-- Whether the directory was read to its end. -/
def ok (t : Table) : Bool := t.error.isNone

/-- The number of symbols in all libraries. -/
def entryCount (t : Table) : Nat := t.libraries.foldr (fun l count => l.entries.length + count) 0

/-- How the reading ended, in words. -/
def status (t : Table) : String :=
  if !t.directoryPresent then "no import directory"
  else match t.error with
    | none => "ok"
    | some e => s!"aborted ({e.kind.word})"

end Table

end ImageImports.Import

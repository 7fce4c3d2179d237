import ImageImports.Bytes
import ImageImports.Section
import ImageImports.Directory

/-!
# Header records

The fixed records at the front of an image, as functions of their bytes, and the names of what they
count.  All numbers are little-endian.
-/

namespace ImageImports.Header

/-! ## File header -/

/-- The number of bytes without which nothing is an image. -/
def minimumSize : Nat := 64

/-- What every image begins with. -/
def dosMagic : List UInt8 := [0x4D, 0x5A]

/-- Where the offset of the signature stands. -/
def signatureOffsetAt : Nat := 60

/-- What stands in front of the file header. -/
def signature : List UInt8 := [0x50, 0x45, 0, 0]

/-- The file header, as far as it is reported. -/
structure File where
  machine : Nat := 0
  sectionCount : Nat := 0
  timestamp : Nat := 0
  optionalSize : Nat := 0
  characteristics : Nat := 0
  deriving DecidableEq, Inhabited

/-- The number of bytes of the file header. -/
def File.recordSize : Nat := 20

/-- The file header in `File.recordSize` bytes. -/
def File.decode (record : ByteArray) : File where
  machine := Bytes.field record 0 2
  sectionCount := Bytes.field record 2 2
  timestamp := Bytes.field record 4 4
  optionalSize := Bytes.field record 16 2
  characteristics := Bytes.field record 18 2

/-- Whether the image is a library. -/
def File.isDll (h : File) : Bool := testBit h.characteristics 13

/-- The machines that have a name. -/
def machineNames : List (Nat × String) :=
  [(0x0, "Unknown"), (0x14C, "x86"), (0x1C0, "ARM"), (0x1C4, "ARM Thumb-2"), (0x8664, "x86_64"),
    (0xAA64, "AArch64"), (0x200, "IA-64")]

/-- The name of a machine, its number where it has none. -/
def machineName (machine : Nat) : String :=
  (machineNames.lookup machine).getD s!"unknown({Bytes.hexNumber machine})"

/-! ## Optional header -/

/-- The optional header, as far as it is reported. -/
structure Optional where
  magic : Nat := 0
  entryPoint : Nat := 0
  imageBase : Nat := 0
  subsystem : Nat := 0
  directoryCount : Nat := 0
  deriving DecidableEq, Inhabited

/-- Where the fields of an optional header stand: its first part is the same for every system, its
second part is specific to one. -/
structure Layout where
  bits : Nat
  standardSize : Nat
  systemSize : Nat
  imageBaseSize : Nat
  subsystemAt : Nat
  directoryCountAt : Nat

/-- The layout with addresses of 32 bits. -/
def narrowLayout : Layout := ⟨32, 28, 68, 4, 40, 64⟩

/-- The layout with addresses of 64 bits. -/
def wideLayout : Layout := ⟨64, 24, 88, 8, 44, 84⟩

/-- The layout that a magic number announces. -/
def layout? : Nat → Option Layout
  | 0x10B => some narrowLayout
  | 0x20B => some wideLayout
  | _ => none

/-- The optional header in the bytes of its two parts. -/
def Optional.decode (layout : Layout) (magic : Nat) (standard system : ByteArray) : Optional where
  magic := magic
  entryPoint := Bytes.field standard 16 4
  imageBase := Bytes.field system 0 layout.imageBaseSize
  subsystem := Bytes.field system layout.subsystemAt 2
  directoryCount := Bytes.field system layout.directoryCountAt 4

/-- The subsystems that have a name. -/
def subsystemNames : List (Nat × String) :=
  [(0, "Unknown"), (1, "Native"), (2, "Windows GUI"), (3, "Windows Console"), (7, "POSIX Console"),
    (9, "Windows CE GUI"), (10, "EFI Application"), (11, "EFI Boot Service Driver"),
    (12, "EFI Runtime Driver"), (13, "EFI ROM"), (14, "Xbox")]

/-- The name of a subsystem, its number where it has none. -/
def subsystemName (subsystem : Nat) : String :=
  (subsystemNames.lookup subsystem).getD s!"Unknown({Bytes.hexNumber subsystem})"

/-! ## Directories and sections -/

/-- The number of bytes of a directory. -/
def directorySize : Nat := 8

/-- The most directories that are read, whatever the header says. -/
def maxDirectories : Nat := 16

/-- The directory in `directorySize` bytes. -/
def decodeDirectory (record : ByteArray) : DataDirectory where
  rva := Bytes.field record 0 4
  size := Bytes.field record 4 4

/-- The number of bytes of a row of the section table. -/
def sectionSize : Nat := 40

/-- The section in `sectionSize` bytes. -/
def decodeSection (record : ByteArray) : Section where
  name := Bytes.paddedText (record.extract 0 8)
  virtualSize := Bytes.field record 8 4
  virtualAddress := Bytes.field record 12 4
  rawSize := Bytes.field record 16 4
  rawOffset := Bytes.field record 20 4
  characteristics := Bytes.field record 36 4

end ImageImports.Header

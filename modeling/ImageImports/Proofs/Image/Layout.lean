import ImageImports.Image.Header
import ImageImports.Import.Directory

/-!
# Images laid out from a list of libraries

The smallest image that imports what it is asked for.  Behind the headers comes one
section, which holds the import directory and everything it points to, in this order: the
descriptors with a record of zeros behind them, the library names, the hints and the names
of the symbols, and for every library its lookup table twice, as the table to read and as
the table that a loader would fill in.

Where something is put depends on the sizes of everything before it.  Three cursors run
through the libraries, one for each of the last three parts (`place`); a fourth runs
through the symbols of a library.
-/

namespace ImageImports.Layout

open Import (Width)

/-! ## What is asked for -/

/-- One import. -/
inductive Symbol where
  | named (name : String)
  | numbered (ordinal : Nat)
  deriving DecidableEq, Inhabited

/-- One library and its imports. -/
structure Plan where
  name : String
  symbols : List Symbol := []
  /-- Whether the descriptor has a lookup table of its own. -/
  hasLookup : Bool := true
  deriving DecidableEq, Inhabited

/-! ## Bytes -/

/-- The `width` little-endian digits of a number. -/
def digits : (width n : Nat) → List UInt8
  | 0, _ => []
  | width + 1, n => UInt8.ofNat n :: digits width (n / 256)

/-- The digits of numbers with their widths, one after the other. -/
def record (fields : List (Nat × Nat)) : List UInt8 :=
  fields.flatMap fun (n, width) => digits width n

/-- An ASCII text with a zero behind it. -/
def terminated (s : String) : List UInt8 :=
  s.toList.map (fun c => UInt8.ofNat c.toNat) ++ [0]

/-- The number of zeros that fill `size` bytes up to a multiple of `unit`. -/
def fill (unit size : Nat) : Nat := (unit - size % unit) % unit

/-- Bytes filled up with zeros to a multiple of `unit`. -/
def padded (unit : Nat) (bytes : List UInt8) : List UInt8 :=
  bytes ++ List.replicate (fill unit bytes.length) 0

/-! ## The section -/

/-- The address of the section. -/
def sectionRva : Nat := 0x1000

/-- The number of bytes of the headers, and what the section is filled up to a multiple
of. -/
def fileUnit : Nat := 0x200

/-- The name of a library. -/
def nameChunk (p : Plan) : List UInt8 := padded 2 (terminated p.name)

/-- The hint and the name of the symbol number `i`. -/
def hintChunk (i : Nat) : Symbol → List UInt8
  | .named name => padded 2 (digits 2 i ++ terminated name)
  | .numbered _ => []

/-- The hints and the names of the symbols from number `i` on. -/
def hintChunks (i : Nat) : List Symbol → List UInt8
  | [] => []
  | s :: rest => hintChunk i s ++ hintChunks (i + 1) rest

/-- The thunk of a symbol, whose hint and name are at `place` in the section if it has
them. -/
def thunk (width : Width) (place : Nat) : Symbol → Nat
  | .named _ => sectionRva + place
  | .numbered ordinal => 1 <<< (width.bits - 1) ||| ordinal

/-- The thunks of the symbols from number `i` on, whose hints and names begin at
`place`. -/
def thunks (width : Width) (place i : Nat) : List Symbol → List Nat
  | [] => []
  | s :: rest =>
    thunk width place s :: thunks width (place + (hintChunk i s).length) (i + 1) rest

/-- A table of thunks, with a zero behind them. -/
def table (width : Width) (values : List Nat) : List UInt8 :=
  (values ++ [0]).flatMap (digits width.bytes)

/-- A library with the places in the section that belong to it. -/
structure Placed where
  plan : Plan
  nameAt : Nat
  hintsAt : Nat
  tableAt : Nat

namespace Placed

variable (width : Width) (q : Placed)

/-- The lookup table of a library. -/
def table : List UInt8 := Layout.table width (thunks width q.hintsAt 0 q.plan.symbols)

/-- The descriptor of a library. -/
def descriptor : List UInt8 :=
  let second := q.tableAt + (q.table width).length
  record [(if q.plan.hasLookup then sectionRva + q.tableAt else 0, 4), (0, 4), (0, 4),
    (sectionRva + q.nameAt, 4), (sectionRva + second, 4)]

/-- Both tables of a library. -/
def tables : List UInt8 := q.table width ++ q.table width

end Placed

/-- Puts libraries one behind the other, from the places on where the names, the hints and
the tables are. -/
def place (width : Width) (names hints tables : Nat) : List Plan → List Placed
  | [] => []
  | p :: rest =>
    let q : Placed := ⟨p, names, hints, tables⟩
    q :: place width (names + (nameChunk p).length)
      (hints + (hintChunks 0 p.symbols).length)
      (tables + (q.tables width).length) rest

/-- The number of bytes of the descriptor array. -/
def arraySize (plans : List Plan) : Nat := (plans.length + 1) * 20

/-- The names of all libraries. -/
def names (plans : List Plan) : List UInt8 := plans.flatMap nameChunk

/-- The hints and the names of all symbols. -/
def hints (plans : List Plan) : List UInt8 :=
  plans.flatMap fun p => hintChunks 0 p.symbols

/-- Where the hints begin. -/
def hintsAt (plans : List Plan) : Nat := arraySize plans + (names plans).length

/-- Where the hints end. -/
def hintsEnd (plans : List Plan) : Nat := hintsAt plans + (hints plans).length

/-- Where the tables begin. -/
def tablesAt (plans : List Plan) : Nat := hintsEnd plans + fill 8 (hintsEnd plans)

/-- The libraries at their places. -/
def placed (width : Width) (plans : List Plan) : List Placed :=
  place width (arraySize plans) (hintsAt plans) (tablesAt plans) plans

/-- The section's data, before it is filled up. -/
def content (width : Width) (plans : List Plan) : List UInt8 :=
  (placed width plans).flatMap (·.descriptor width) ++ List.replicate 20 0
    ++ names plans ++ hints plans ++ List.replicate (fill 8 (hintsEnd plans)) 0
    ++ (placed width plans).flatMap (·.tables width)

/-! ## The headers -/

/-- The directories: there is none but that of the imports. -/
def directories (directorySize : Nat) : List UInt8 :=
  record ((List.range 16).flatMap fun i =>
    if i = 1 then [(sectionRva, 4), (directorySize, 4)] else [(0, 4), (0, 4)])

/-- The number that an optional header begins with. -/
def magic : Width → Nat
  | .narrow => 0x10B
  | .wide => 0x20B

/-- The first part of the optional header; an image with narrow addresses also says where
its data begins. -/
def standardPart (width : Width) (rawSize : Nat) : List UInt8 :=
  record [(magic width, 2), (14, 1), (0, 1), (0, 4), (rawSize, 4), (0, 4),
    (sectionRva, 4), (sectionRva, 4)] ++
  match width with
  | .narrow => record [(sectionRva, 4)]
  | .wide => []

/-- Where the image wants to be loaded. -/
def imageBase : Width → Nat
  | .narrow => 0x400000
  | .wide => 0x140000000

/-- The second part of the optional header. -/
def systemPart (width : Width) (imageSize : Nat) : List UInt8 :=
  let address := width.bytes
  record [(imageBase width, address), (0x1000, 4), (fileUnit, 4),
    (6, 2), (0, 2), (0, 2), (0, 2), (6, 2), (0, 2), (0, 4),
    (imageSize, 4), (fileUnit, 4), (0, 4), (3, 2), (0, 2),
    (0x100000, address), (0x1000, address), (0x100000, address), (0x1000, address),
    (0, 4), (16, 4)]

/-- The optional header of an image whose section has `size` bytes, `rawSize` when filled
up. -/
def optionalHeader (width : Width) (directorySize size rawSize : Nat) : List UInt8 :=
  let loaded := max size rawSize
  standardPart width rawSize
    ++ systemPart width (sectionRva + (loaded + fill 0x1000 loaded))
    ++ directories directorySize

/-- The machine that has addresses of a width. -/
def machine : Width → Nat
  | .narrow => 0x14C
  | .wide => 0x8664

/-- The file header. -/
def fileHeader (width : Width) (optionalSize : Nat) : List UInt8 :=
  record [(machine width, 2), (1, 2), (0x5F000000, 4), (0, 4), (0, 4),
    (optionalSize, 2), (0x0102, 2)]

/-- The row of the section table. -/
def sectionHeader (size rawSize : Nat) : List UInt8 :=
  [0x2E, 0x69, 0x64, 0x61, 0x74, 0x61, 0, 0] ++
    record [(size, 4), (sectionRva, 4), (rawSize, 4), (fileUnit, 4), (0, 4), (0, 4),
      (0, 2), (0, 2), (0xC0000040, 4)]

/-- Everything in front of the section, before it is filled up. -/
def headers (width : Width) (directorySize size rawSize : Nat) : List UInt8 :=
  let optional := optionalHeader width directorySize size rawSize
  Header.dosMagic ++ List.replicate 58 0 ++ record [(64, 4)] ++ Header.signature
    ++ fileHeader width optional.length ++ optional ++ sectionHeader size rawSize

/-- The image. -/
def image (width : Width) (plans : List Plan) : ByteArray :=
  let content := content width plans
  let data := padded fileUnit content
  ⟨(padded fileUnit (headers width (arraySize plans) content.length data.length)
    ++ data).toArray⟩

end ImageImports.Layout

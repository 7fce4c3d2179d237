/-!
# Digest blocks

What the two digests share: a message is followed by a bit that is set, by zeros, and by its length
in bits, so that it fills blocks of 64 bytes, and a block is sixteen words.
-/

namespace ImageImports.Digest

/-- The number of bytes of a block. -/
def blockSize : Nat := 64

/-- The `i`-th of eight bytes of a number, the least significant one first. -/
def lengthByte (n i : Nat) : UInt8 := UInt8.ofNat (n >>> (8 * i))

/-- What is put behind a message of `size` bytes, its length with the given order of bytes. -/
def padding (size : Nat) (littleEndian : Bool) : ByteArray :=
  let zeros := (blockSize - (size + 9) % blockSize) % blockSize
  let length := (List.range 8).map fun i => lengthByte (8 * size) (if littleEndian then i else 7 - i)
  ⟨((0x80 : UInt8) :: List.replicate zeros 0 ++ length).toArray⟩

/-- The byte at an index, zero past the end. -/
def byteAt (bytes : ByteArray) (i : Nat) : UInt32 := if h : i < bytes.size then bytes[i].toUInt32 else 0

/-- Word `i` of the block at `offset`. -/
def wordAt (littleEndian : Bool) (bytes : ByteArray) (offset i : Nat) : UInt32 :=
  let at0 := byteAt bytes (offset + 4 * i)
  let at1 := byteAt bytes (offset + 4 * i + 1)
  let at2 := byteAt bytes (offset + 4 * i + 2)
  let at3 := byteAt bytes (offset + 4 * i + 3)
  if littleEndian then at0 ||| at1 <<< 8 ||| at2 <<< 16 ||| at3 <<< 24
  else at0 <<< 24 ||| at1 <<< 16 ||| at2 <<< 8 ||| at3

/-- The sixteen words of the block at `offset`. -/
def blockWords (littleEndian : Bool) (bytes : ByteArray) (offset : Nat) : Array UInt32 :=
  (Array.range 16).map (wordAt littleEndian bytes offset)

/-- Left rotation of a word. -/
def rotateLeft (x : UInt32) (n : UInt32) : UInt32 := x <<< n ||| x >>> (32 - n)

/-- Right rotation of a word. -/
def rotateRight (x : UInt32) (n : UInt32) : UInt32 := x >>> n ||| x <<< (32 - n)

/-- The bytes of a word, the least significant one first. -/
def wordBytes (x : UInt32) : List UInt8 :=
  [x.toUInt8, (x >>> 8).toUInt8, (x >>> 16).toUInt8, (x >>> 24).toUInt8]

/-- The element at an index, zero past the end. -/
def wordOf (words : Array UInt32) (i : Nat) : UInt32 := words.getD i 0

/-- Runs a compression function over all blocks of a padded message. -/
def foldBlocks {α : Type} (compress : α → Array UInt32 → α) (littleEndian : Bool) (message : ByteArray)
    (initial : α) : α :=
  let padded := message ++ padding message.size littleEndian
  Nat.fold (padded.size / blockSize)
    (fun i _ state => compress state (blockWords littleEndian padded (i * blockSize))) initial

end ImageImports.Digest

/-!
# Byte strings as numbers and as text

The two readings that every record of an image needs: a run of bytes as a little-endian number,
and a run of bytes as text.  Text is ASCII; a byte outside ASCII stands for no character at all and
is shown as the replacement character, one per byte, so the text has exactly as many characters as
there were bytes.

## Main results

* `littleEndian_lt` — a run of `n` bytes is a number of `8 * n` bits.
* `length_text` — reading text neither drops nor merges a byte.
-/

namespace ImageImports.Bytes

/-! ## Numbers -/

/-- The number whose base-256 digits, least significant first, are the given bytes. -/
def digitsValue : List UInt8 → Nat
  | [] => 0
  | b :: rest => b.toNat + 256 * digitsValue rest

/-- The little-endian number that a byte string holds. -/
def littleEndian (bytes : ByteArray) : Nat := digitsValue bytes.data.toList

/-- The little-endian number in the `width` bytes from `offset` on. -/
def field (bytes : ByteArray) (offset width : Nat) : Nat :=
  littleEndian (bytes.extract offset (offset + width))

theorem digitsValue_lt (digits : List UInt8) : digitsValue digits < 1 <<< (8 * digits.length) := by
  induction digits with
  | nil => simp [digitsValue]
  | cons b rest ih =>
    have hb : b.toNat < 256 := b.toNat_lt
    have hstep : 1 <<< (8 * (rest.length + 1)) = 256 * 1 <<< (8 * rest.length) := by
      rw [Nat.one_shiftLeft, Nat.one_shiftLeft, Nat.mul_succ, Nat.pow_add, Nat.mul_comm]
    rw [List.length_cons, hstep, digitsValue]
    omega

theorem littleEndian_lt (bytes : ByteArray) : littleEndian bytes < 1 <<< (8 * bytes.size) := by
  simpa [littleEndian] using digitsValue_lt bytes.data.toList

/-! ## Text -/

/-- The character a byte of image text stands for. -/
def char (b : UInt8) : Char := if b < 128 then Char.ofNat b.toNat else '\uFFFD'

/-- The text a byte string holds. -/
def text (bytes : ByteArray) : String := String.ofList (bytes.data.toList.map char)

@[simp] theorem length_text (bytes : ByteArray) : (text bytes).length = bytes.size := by
  simp [text]

/-- The index of the first zero byte, the size when there is none. -/
def zeroIndex (bytes : ByteArray) : Nat := (bytes.data.toList.takeWhile (· ≠ 0)).length

/-- The text before the first zero byte: how fixed-width names are padded. -/
def paddedText (bytes : ByteArray) : String := text (bytes.extract 0 (zeroIndex bytes))

/-! ## Hexadecimal -/

/-- The lower-case hexadecimal digit of a number below sixteen. -/
def hexDigit (n : Nat) : Char := if n < 10 then Char.ofNat (48 + n) else Char.ofNat (87 + n)

/-- Two lower-case hexadecimal digits per byte. -/
def hex (bytes : ByteArray) : String :=
  String.ofList (bytes.data.toList.flatMap fun b => [hexDigit (b.toNat / 16), hexDigit (b.toNat % 16)])

/-- The value of a hexadecimal digit of either case. -/
def hexValue? (c : Char) : Option Nat :=
  if '0' ≤ c ∧ c ≤ '9' then some (c.toNat - 48)
  else if 'a' ≤ c ∧ c ≤ 'f' then some (c.toNat - 87)
  else if 'A' ≤ c ∧ c ≤ 'F' then some (c.toNat - 55)
  else none

/-- Reads pairs of hexadecimal digits onto the end of `bytes`. -/
def ofHexDigits? (bytes : ByteArray) : List Char → Option ByteArray
  | [] => some bytes
  | [_] => none
  | hi :: lo :: rest =>
    match hexValue? hi, hexValue? lo with
    | some h, some l => ofHexDigits? (bytes.push (UInt8.ofNat (16 * h + l))) rest
    | _, _ => none

/-- The byte string that a text of hexadecimal digit pairs spells. -/
def ofHex? (s : String) : Option ByteArray := ofHexDigits? .empty s.toList

/-- A number in lower-case hexadecimal behind `0x`; a minus sign stands in front of the digits. -/
def hexNumber (n : Int) : String :=
  (if n < 0 then "0x-" else "0x") ++ String.ofList (Nat.toDigits 16 n.natAbs)

end ImageImports.Bytes

import ImageImports.Bytes

/-!
# Text in bytes

A file of text holds its characters in one to four bytes each.  `decode` gives the text, or the first
place where the bytes are no text, and what is wrong there.
-/

namespace ImageImports.Text.Utf8

/-- What is wrong with bytes that are to be a character. -/
inductive FaultKind where
  /-- No character begins with this byte. -/
  | start
  /-- The byte cannot follow those before it. -/
  | continuation
  /-- The bytes end within a character. -/
  | ended
  deriving DecidableEq, Inhabited

/-- The first place where bytes are no text. -/
structure Fault where
  position : Nat
  /-- The number of bytes that do not go together. -/
  length : Nat
  first : Nat
  kind : FaultKind
  deriving DecidableEq, Inhabited

/-- How a fault is told. -/
def Fault.message (f : Fault) : String :=
  let reason := match f.kind with
    | .start => "invalid start byte"
    | .continuation => "invalid continuation byte"
    | .ended => "unexpected end of data"
  let place :=
    if f.length = 1 then
      s!"byte 0x{String.ofList [Bytes.hexDigit (f.first / 16), Bytes.hexDigit (f.first % 16)]} in position {f.position}"
    else s!"bytes in position {f.position}-{f.position + f.length - 1}"
  s!"'utf-8' codec can't decode {place}: {reason}"

/-- The bytes that may follow a first byte: for each of them the least and the greatest one. -/
def followers? (first : Nat) : Option (List (Nat × Nat)) :=
  if first < 0x80 then some []
  else if 0xC2 ≤ first ∧ first ≤ 0xDF then some [(0x80, 0xBF)]
  else if first = 0xE0 then some [(0xA0, 0xBF), (0x80, 0xBF)]
  else if first = 0xED then some [(0x80, 0x9F), (0x80, 0xBF)]
  else if 0xE1 ≤ first ∧ first ≤ 0xEF then some [(0x80, 0xBF), (0x80, 0xBF)]
  else if first = 0xF0 then some [(0x90, 0xBF), (0x80, 0xBF), (0x80, 0xBF)]
  else if 0xF1 ≤ first ∧ first ≤ 0xF3 then some [(0x80, 0xBF), (0x80, 0xBF), (0x80, 0xBF)]
  else if first = 0xF4 then some [(0x80, 0x8F), (0x80, 0xBF), (0x80, 0xBF)]
  else none

/-- What is wrong with the bytes behind a first byte, by the number of bytes that go together. -/
def followFault? (taken : Nat) : List (Nat × Nat) → List UInt8 → Option (Nat × FaultKind)
  | [], _ => none
  | _ :: _, [] => some (taken, .ended)
  | (least, greatest) :: more, b :: rest =>
    if least ≤ b.toNat ∧ b.toNat ≤ greatest then followFault? (taken + 1) more rest
    else some (taken, .continuation)

/-- The first fault in bytes from `position` on; `skip` bytes belong to a character that was
checked. -/
def firstFault? (position skip : Nat) : List UInt8 → Option Fault
  | [] => none
  | b :: rest =>
    match skip with
    | skip + 1 => firstFault? (position + 1) skip rest
    | 0 =>
      match followers? b.toNat with
      | none => some ⟨position, 1, b.toNat, .start⟩
      | some more =>
        match followFault? 1 more rest with
        | some (length, kind) => some ⟨position, length, b.toNat, kind⟩
        | none => firstFault? (position + 1) more.length rest

/-- The text that bytes hold. -/
def decode (bytes : ByteArray) : Except Fault String :=
  match String.fromUTF8? bytes with
  | some s => .ok s
  | none => .error ((firstFault? 0 0 bytes.data.toList).getD default)

end ImageImports.Text.Utf8

import Switchboard.Json.Basic

/-! # Byte strings

Byte strings are shown in hexadecimal. Long ones are shown by their length, both ends and the
32-bit FNV-1a hash of the whole. -/

namespace Switchboard.Bytes

/-- A byte as two lowercase hexadecimal digits. -/
def hexByte (b : UInt8) : List Char :=
  [Nat.digitChar (b.toNat / 16), Nat.digitChar (b.toNat % 16)]

/-- A byte string in hexadecimal. -/
def hex (bytes : List UInt8) : String := String.ofList (bytes.flatMap hexByte)

/-- The 32-bit FNV-1a hash. -/
def fnv1a (bytes : List UInt8) : UInt32 :=
  bytes.foldl (fun h b => (h ^^^ b.toUInt32) * 0x01000193) 0x811c9dc5

/-- Length of the longest byte string that is shown in full. -/
def shownInFull : Nat := 128

/-- A byte string as it appears in answers. -/
def display (bytes : List UInt8) : Json :=
  let n := bytes.length
  if n ≤ shownInFull then .text (hex bytes)
  else .record [
    ("len", .nat n),
    ("head", .text (hex (bytes.take 16))),
    ("tail", .text (hex (bytes.drop (n - 16)))),
    ("fnv1a", .nat (fnv1a bytes).toNat)]

end Switchboard.Bytes

/-! # Random ids

    An id made of sixteen random bytes: their hexadecimal digits in groups of 8, 4, 4, 4 and 12,
    with six bits set to tell that the others are random. -/

namespace Issuance.RandomId

/-- How many bytes an id takes. -/
def size : Nat := 16

/-- A byte with the mark of its place: the version, 4, in the upper half of the seventh byte, and
    the variant in the two upper bits of the ninth. -/
def mark (place : Nat) (b : UInt8) : UInt8 :=
  if place = 6 then (b &&& 0x0F) ||| 0x40
  else if place = 8 then (b &&& 0x3F) ||| 0x80
  else b

/-- The two hexadecimal digits of a byte. -/
def hexByte (b : UInt8) : List Char :=
  [Nat.digitChar (b.toNat / 16), Nat.digitChar (b.toNat % 16)]

/-- The hexadecimal digits of bytes. -/
def hex (bytes : List UInt8) : List Char := bytes.flatMap hexByte

/-- The groups of an id: their lengths in bytes. -/
def groups : List Nat := [4, 2, 2, 2, 6]

/-- Bytes in groups of the given lengths, with dashes between them. -/
def grouped : List Nat → List UInt8 → List Char
  | [], _ => []
  | [n], bytes => hex (bytes.take n)
  | n :: rest, bytes => hex (bytes.take n) ++ '-' :: grouped rest (bytes.drop n)

/-- The id made of sixteen bytes. -/
def ofBytes (bytes : List UInt8) : String := String.ofList (grouped groups (bytes.mapIdx mark))

/-- The ids made of a run of bytes, by their number. -/
def ofRun (bytes : List UInt8) (n : Nat) : String :=
  ofBytes ((bytes.drop (size * n)).take size)

end Issuance.RandomId

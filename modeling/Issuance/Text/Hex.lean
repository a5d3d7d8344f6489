/-! # Base sixteen

    Numbers in base sixteen: written in small letters, read in letters of either case. -/

namespace Issuance.Text

/-- The digits of a number in base sixteen, in small letters. -/
def hexDigits (n : Nat) : List Char := Nat.toDigits 16 n

/-- The value of a hexadecimal digit. -/
def hexValue (c : Char) : Option Nat :=
  let n := c.toNat
  if 0x30 ≤ n ∧ n ≤ 0x39 then some (n - 0x30)
  else if 0x41 ≤ n ∧ n ≤ 0x46 then some (n - 0x37)
  else if 0x61 ≤ n ∧ n ≤ 0x66 then some (n - 0x57)
  else none

/-- The number that hexadecimal digits stand for; there must be one at least. -/
def ofHex? (s : List Char) : Option Nat :=
  if s = [] then none else s.foldlM (fun n c => (hexValue c).map fun v => n * 16 + v) 0

end Issuance.Text

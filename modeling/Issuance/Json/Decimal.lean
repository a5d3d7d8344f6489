import Issuance.Json.Magnitude

/-! # The written form of floating point numbers

    A magnitude is written with the fewest digits that read back to it; of the decimals with that
    many digits the nearest is taken, and of two equally near ones the even one. Numbers from
    `0.00001` up to below `10 ^ 16` are written in plain decimals, others with a signed exponent. A
    point or an exponent is always there, which tells these numbers from the whole ones. -/

namespace Issuance.Json

/-- The value `digits * 10 ^ exponent`. -/
structure Decimal where
  digits : Nat
  exponent : Int
  deriving DecidableEq, Repr

/-- The digits of a natural number. -/
def digitsOf (n : Nat) : List Char := Nat.toDigits 10 n

/-- A number in decimal digits, as a string. -/
def numeral (n : Nat) : String := String.ofList (digitsOf n)

/-- The digits of an integer, with a minus sign below zero. -/
def integerText : Int → List Char
  | .ofNat n => digitsOf n
  | .negSucc n => '-' :: digitsOf (n + 1)

namespace Magnitude

/-- The quarter of the magnitude's last place in units of `10 ^ scale`, as a quotient. -/
def quarterIn (x : Magnitude) (scale : Int) : Nat × Nat :=
  (Nat.pow 2 (x.exponent - 2).toNat * Nat.pow 10 (-scale).toNat,
    Nat.pow 2 (2 - x.exponent).toNat * Nat.pow 10 scale.toNat)

/-- Four times the mantissa at the lower end of the values that round to the magnitude. The gap
    below a power of two is half as wide as the one above. -/
def lowerEnd (x : Magnitude) : Nat :=
  if x.mantissa = Nat.pow 2 52 ∧ x.exponent > -1074 then 4 * x.mantissa - 1 else 4 * x.mantissa - 2

/-- Whether `digits * 10 ^ scale` lies among the values that round to the magnitude; the two ends
    belong to them when the mantissa is even. -/
def readsBack (x : Magnitude) (scale : Int) (digits : Nat) : Bool :=
  let (num, den) := x.quarterIn scale
  let low := x.lowerEnd * num
  let high := (4 * x.mantissa + 2) * num
  let value := digits * den
  (low < value && value < high) || (x.mantissa % 2 == 0 && (value == low || value == high))

/-- The decimal nearest to the magnitude among those with exponent `scale` that read back to it. -/
def nearestAt (x : Magnitude) (scale : Int) : Option Nat :=
  let (num, den) := x.quarterIn scale
  let value := 4 * x.mantissa * num
  let below := value / den
  let above := below + 1
  match x.readsBack scale below, x.readsBack scale above with
  | false, false => none
  | true, false => some below
  | false, true => some above
  | true, true =>
    match compare (2 * value) ((below + above) * den) with
    | .lt => some below
    | .gt => some above
    | .eq => some (if below % 2 = 0 then below else above)

/-- The first of the exponents from `scale` down, `tries` of them, at which some decimal reads back
    to the magnitude. -/
def coarsest (x : Magnitude) : Nat → Int → Decimal
  | 0, scale => ⟨(4 * x.mantissa * (x.quarterIn scale).1) / (x.quarterIn scale).2, scale⟩
  | tries + 1, scale =>
    match x.nearestAt scale with
    | some digits => ⟨digits, scale⟩
    | none => coarsest x tries (scale - 1)

/-- The shortest decimal that reads back to a magnitude other than zero. The search starts above the
    leading digit and needs no more than seventeen places from there. -/
def shortest (x : Magnitude) : Decimal :=
  let bits : Int := x.mantissa.log2 + x.exponent
  x.coarsest 24 (bits * 30103 / 100000 + 2)

end Magnitude

/-- The digits with a point after the first `k` of them, and zeros where digits are missing. -/
def plainText (digits : List Char) (k : Int) : List Char :=
  if k ≤ 0 then '0' :: '.' :: List.replicate (-k).toNat '0' ++ digits
  else if digits.length ≤ k.toNat then
    digits ++ List.replicate (k.toNat - digits.length) '0' ++ ['.', '0']
  else digits.take k.toNat ++ '.' :: digits.drop k.toNat

/-- The digits with a point after the first, and the power of ten of that first digit. -/
def exponentText (digits : List Char) (power : Int) : List Char :=
  let mantissa :=
    match digits with
    | [] => []
    | [d] => [d]
    | d :: rest => d :: '.' :: rest
  mantissa ++ 'e' :: (if power < 0 then '-' else '+') :: digitsOf power.natAbs

/-- The written form of a decimal: plain when its first digit stands for a power of ten from `-5` to
    `15`. -/
def Decimal.text (d : Decimal) : List Char :=
  let digits := digitsOf d.digits
  let power := d.exponent + digits.length - 1
  if -5 ≤ power ∧ power < 16 then plainText digits (power + 1) else exponentText digits power

/-- The written form of a magnitude. -/
def Magnitude.text (x : Magnitude) : List Char :=
  if x.mantissa = 0 then ['0', '.', '0'] else x.shortest.text

end Issuance.Json

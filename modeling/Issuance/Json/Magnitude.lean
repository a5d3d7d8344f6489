/-! # Binary floating point magnitudes

    A number with a point or an exponent is held as a finite binary64 magnitude: a 53-bit mantissa
    times a power of two. Every operation takes the exact quotient of two naturals and rounds it
    once, to the nearest magnitude and to the even mantissa on a tie, so nothing here depends on the
    arithmetic of the machine. -/

namespace Issuance.Json

/-- The value `mantissa * 2 ^ exponent`. Those in use have a mantissa below `2 ^ 53` and an exponent
    between `-1074` and `971`, and a mantissa of 53 bits unless the exponent is the least. -/
structure Magnitude where
  mantissa : Nat
  exponent : Int
  deriving DecidableEq, Repr

namespace Magnitude

/-- The magnitude zero. -/
def zero : Magnitude := ⟨0, -1074⟩

/-- The numerator of the value as a quotient of naturals. -/
def num (x : Magnitude) : Nat := x.mantissa * Nat.pow 2 x.exponent.toNat

/-- The denominator of the value as a quotient of naturals. -/
def den (x : Magnitude) : Nat := Nat.pow 2 (-x.exponent).toNat

/-- A quotient rounded to the nearest natural, to the even one on a tie. -/
def roundQuotient (num den : Nat) : Nat :=
  let q := num / den
  let twice := 2 * (num % den)
  if twice < den then q else if den < twice then q + 1 else if q % 2 = 0 then q else q + 1

/-- The exponent that leaves a mantissa of 53 bits for `num / den`, but not below the least. -/
def scaleOf (num den : Nat) : Int :=
  let guess : Int := (num.log2 : Int) - (den.log2 : Int) - 52
  let exact :=
    if num * Nat.pow 2 (-guess).toNat < den * Nat.pow 2 (guess.toNat + 52) then guess - 1 else guess
  max exact (-1074)

/-- The magnitude nearest to `num / den`; none when that lies beyond the greatest one. -/
def ofQuotient (num den : Nat) : Option Magnitude :=
  if num = 0 then some zero
  else
    let e := scaleOf num den
    let m := roundQuotient (num * Nat.pow 2 (-e).toNat) (den * Nat.pow 2 e.toNat)
    let x : Magnitude := if m = Nat.pow 2 53 then ⟨Nat.pow 2 52, e + 1⟩ else ⟨m, e⟩
    if x.exponent > 971 then none else some x

/-- The magnitude nearest to a natural number. -/
def ofNat (n : Nat) : Option Magnitude := ofQuotient n 1

/-- The magnitude nearest to a product. -/
def times (x y : Magnitude) : Option Magnitude := ofQuotient (x.num * y.num) (x.den * y.den)

/-- The magnitude nearest to a quotient. -/
def quotient (x y : Magnitude) : Option Magnitude := ofQuotient (x.num * y.den) (x.den * y.num)

/-- The magnitude nearest to the power `10 ^ k`, for `k` up to 308. -/
def powerOfTen (k : Nat) : Option Magnitude := ofNat (Nat.pow 10 k)

/-- A magnitude divided by `10 ^ k`, in steps of at most 308 powers, each of them rounded. -/
def shrink : Nat → Magnitude → Nat → Option Magnitude
  | 0, x, k => (powerOfTen k).bind x.quotient
  | steps + 1, x, k =>
    if x.mantissa = 0 then some x
    else ((powerOfTen 308).bind x.quotient).bind fun y => shrink steps y (k - 308)

/-- The magnitude read for `significand * 10 ^ exponent`: the significand is rounded first, then
    multiplied or divided by a power of ten, and each step rounds. This is not always the magnitude
    nearest to the decimal. -/
def ofDecimal (significand : Nat) (exponent : Int) : Option Magnitude :=
  (ofNat significand).bind fun x =>
    match exponent with
    | .ofNat k =>
      if k ≤ 308 then (powerOfTen k).bind x.times else if x.mantissa = 0 then some x else none
    | .negSucc k => shrink (k / 308) x (k + 1)

end Magnitude
end Issuance.Json

import Issuance.Json.Basic
import Issuance.Json.Fault

/-! # Reading number literals

    A literal without point and exponent is a whole number when it fits 64 bits, signed ones below
    zero and unsigned ones else. Every other literal is a magnitude. Its significand is made of the
    digits up to the first that would lift it over 64 bits; digits of the whole part left out after
    that still count as powers of ten, digits of the fraction do not. -/

namespace Issuance.Json

/-- The ten digits. -/
def isDigit (c : Char) : Bool := '0' ≤ c && c ≤ '9'

/-- The value of a digit. -/
def digitValue (c : Char) : Nat := c.toNat - 0x30

/-- The digits that a text starts with, and the rest. -/
def spanDigits (s : List Char) : List Char × List Char := (s.takeWhile isDigit, s.dropWhile isDigit)

/-- A significand lengthened by digits as long as it fits 64 bits, and the digits left out. -/
def lengthen : Nat → List Char → Nat × List Char
  | n, [] => (n, [])
  | n, d :: rest =>
    let m := n * 10 + digitValue d
    if m < Nat.pow 2 64 then lengthen m rest else (n, d :: rest)

/-- A magnitude with its sign. -/
def float (negative : Bool) (significand : Nat) (exponent : Int) (rest : List Char) :
    Except Fault (Number × List Char) :=
  match Magnitude.ofDecimal significand exponent with
  | some x => .ok (.float negative x, rest)
  | none => .error (.before .numberOutOfRange rest)

/-- An exponent lengthened by digits as long as it fits 31 bits; when it does not, what follows the
    digit that lifts it over. -/
def lengthenExponent : Nat → List Char → Except (List Char) (Nat × List Char)
  | n, [] => .ok (n, [])
  | n, d :: rest =>
    if isDigit d then
      let m := n * 10 + digitValue d
      if m < Nat.pow 2 31 then lengthenExponent m rest else .error rest
    else .ok (n, d :: rest)

/-- The sign that may stand before the digits of an exponent. -/
def exponentSign : List Char → Bool × List Char
  | [] => (false, [])
  | c :: rest =>
    if c = '-' then (true, rest) else if c = '+' then (false, rest) else (false, c :: rest)

/-- Reads on behind the letter of an exponent. -/
def readExponent (negative : Bool) (significand : Nat) (scale : Int) (s : List Char) :
    Except Fault (Number × List Char) :=
  match exponentSign s with
  | (_, []) => .error (.before .endInValue [])
  | (below, c :: rest) =>
    if isDigit c then
      match lengthenExponent (digitValue c) rest with
      | .ok (e, rest') => float negative significand (if below then scale - e else scale + e) rest'
      | .error rest' =>
        if significand ≠ 0 ∧ below = false then .error (.before .numberOutOfRange rest')
        else .ok (.float negative .zero, rest'.dropWhile isDigit)
    else .error (.on .invalidNumber (c :: rest))

/-- Reads on behind the digits of a number with a point or an exponent, which may start here. -/
def readScale (negative : Bool) (significand : Nat) (scale : Int) (s : List Char) :
    Except Fault (Number × List Char) :=
  match s with
  | [] => float negative significand scale []
  | c :: rest =>
    if c = 'e' ∨ c = 'E' then readExponent negative significand scale rest
    else float negative significand scale s

/-- Reads on behind the point of a number. -/
def readFraction (negative : Bool) (significand : Nat) (scale : Int) (s : List Char) :
    Except Fault (Number × List Char) :=
  let (digits, rest) := spanDigits s
  if digits.isEmpty then
    if s.isEmpty then .error (.before .endInValue []) else .error (.on .invalidNumber s)
  else
    let (m, left) := lengthen significand digits
    readScale negative m (scale - (digits.length - left.length : Nat)) rest

/-- A whole number, or the magnitude it is read as when 64 bits do not hold it. -/
def whole (negative : Bool) (n : Nat) (rest : List Char) : Except Fault (Number × List Char) :=
  if negative then
    if 0 < n ∧ n ≤ Nat.pow 2 63 then .ok (.whole (-(n : Int)), rest) else float true n 0 rest
  else .ok (.whole n, rest)

/-- Reads on behind the whole part of a number, given its significand and how many digits were left
    out. -/
def readAfterWhole (negative : Bool) (significand left : Nat) (s : List Char) :
    Except Fault (Number × List Char) :=
  match s with
  | [] => if left = 0 then whole negative significand [] else float negative significand left []
  | c :: rest =>
    if c = '.' then readFraction negative significand left rest
    else if left = 0 ∧ c ≠ 'e' ∧ c ≠ 'E' then whole negative significand s
    else readScale negative significand left s

/-- The number whose digits start here, and what follows it. -/
def readNumber (negative : Bool) (s : List Char) : Except Fault (Number × List Char) :=
  match s with
  | [] => .error (.before .endInValue [])
  | c :: rest =>
    if c = '0' then
      if rest.head?.any isDigit then .error (.on .invalidNumber rest)
      else readAfterWhole negative 0 0 rest
    else if isDigit c then
      let (digits, rest') := spanDigits s
      let (n, left) := lengthen 0 digits
      readAfterWhole negative n left.length rest'
    else .error (.on .invalidNumber s)

/-- What follows the exponent of a number that nobody asks for. -/
def skipExponent (s : List Char) : Except Fault (List Char) :=
  match (exponentSign s).2 with
  | [] => .error (.before .invalidNumber [])
  | c :: rest =>
    if isDigit c then .ok (rest.dropWhile isDigit) else .error (.on .invalidNumber (c :: rest))

/-- Goes on behind the digits of a number that nobody asks for, with the exponent if there is
    one. -/
def skipScale (s : List Char) : Except Fault (List Char) :=
  match s with
  | [] => .ok []
  | c :: rest => if c = 'e' ∨ c = 'E' then skipExponent rest else .ok s

/-- What follows the number whose digits start here, when nobody asks for it. -/
def skipNumber (s : List Char) : Except Fault (List Char) :=
  match s with
  | [] => .error (.before .invalidNumber [])
  | c :: rest =>
    let (digits, rest') := spanDigits s
    if digits.isEmpty then .error (.on .invalidNumber s)
    else if c = '0' ∧ digits.length > 1 then .error (.on .invalidNumber rest)
    else
      match rest' with
      | [] => .ok []
      | d :: tail =>
        if d = '.' then
          let (fraction, rest'') := spanDigits tail
          if fraction.isEmpty then .error (.on .invalidNumber tail) else skipScale rest''
        else skipScale rest'

end Issuance.Json

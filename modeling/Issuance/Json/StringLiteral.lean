import Issuance.Json.Fault
import Issuance.Text.Hex

/-! # Reading string literals

    A literal is read from behind its opening quote. `readString` gives the text it stands for;
    escapes of surrogates must come in pairs. `skipString` only finds the end of a literal that
    nobody asks for: it takes any four hexadecimal digits in an escape. -/

namespace Issuance.Json

/-- The value of four hexadecimal digits. -/
def hexQuad (a b c d : Char) : Option Nat :=
  match Text.hexValue a, Text.hexValue b, Text.hexValue c, Text.hexValue d with
  | some a, some b, some c, some d => some (((a * 16 + b) * 16 + c) * 16 + d)
  | _, _, _, _ => none

/-- What is wrong with a text that does not start with four hexadecimal digits: it ends within four
    bytes, or they are no digits. -/
def hexFault (s : List Char) : Fault :=
  if byteCount s < 4 then ⟨.endInString, 0⟩ else ⟨.invalidEscape, byteCount s - 4⟩

/-- The character of an escape other than the hexadecimal one. -/
def unescape (c : Char) : Option Char :=
  if c = '"' then some '"'
  else if c = '\\' then some '\\'
  else if c = '/' then some '/'
  else if c = 'b' then some (Char.ofNat 8)
  else if c = 'f' then some (Char.ofNat 12)
  else if c = 'n' then some '\n'
  else if c = 'r' then some '\r'
  else if c = 't' then some '\t'
  else none

/-- The first half of a surrogate pair. -/
def isLeading (n : Nat) : Bool := 0xD800 ≤ n && n ≤ 0xDBFF

/-- The second half of a surrogate pair. -/
def isTrailing (n : Nat) : Bool := 0xDC00 ≤ n && n ≤ 0xDFFF

/-- The character of a surrogate pair. -/
def pairChar (lead trail : Nat) : Char :=
  Char.ofNat ((lead - 0xD800) * 0x400 + (trail - 0xDC00) + 0x10000)

/-- What is wrong with a text that has to go on with the escape of a second half and does not. -/
def trailFault : List Char → Fault
  | [] => .before .endInString []
  | b :: rest =>
    if b ≠ '\\' then .on .endInHexEscape (b :: rest)
    else
      match rest with
      | [] => .before .endInString []
      | u :: digits => if u ≠ 'u' then .on .endInHexEscape rest else hexFault digits

/-- Puts a character before the text that was read. -/
def prepend (c : Char) : Except Fault (List Char × List Char) → Except Fault (List Char × List Char)
  | .ok (s, rest) => .ok (c :: s, rest)
  | .error f => .error f

/-- The text of a literal and what follows its closing quote. -/
def readString : List Char → Except Fault (List Char × List Char)
  | [] => .error (.before .endInString [])
  | c :: rest =>
    if c = '"' then .ok ([], rest)
    else if c = '\\' then
      match rest with
      | [] => .error (.before .endInString [])
      | e :: rest₁ =>
        if e = 'u' then
          match rest₁ with
          | h₁ :: h₂ :: h₃ :: h₄ :: rest₂ =>
            match hexQuad h₁ h₂ h₃ h₄ with
            | none => .error (hexFault rest₁)
            | some n =>
              if isTrailing n then .error (.before .loneSurrogate rest₂)
              else if isLeading n then
                match rest₂ with
                | b :: u :: k₁ :: k₂ :: k₃ :: k₄ :: rest₃ =>
                  if b = '\\' ∧ u = 'u' then
                    match hexQuad k₁ k₂ k₃ k₄ with
                    | none => .error (trailFault rest₂)
                    | some m =>
                      if isTrailing m then prepend (pairChar n m) (readString rest₃)
                      else .error (.before .loneSurrogate rest₃)
                  else .error (trailFault rest₂)
                | _ => .error (trailFault rest₂)
              else prepend (Char.ofNat n) (readString rest₂)
          | _ => .error (hexFault rest₁)
        else
          match unescape e with
          | some d => prepend d (readString rest₁)
          | none => .error (.on .invalidEscape rest)
    else if c.toNat < 0x20 then .error (.on .controlCharacter (c :: rest))
    else prepend c (readString rest)

/-- What follows the closing quote of a literal that nobody asks for. -/
def skipString : List Char → Except Fault (List Char)
  | [] => .error (.before .endInString [])
  | c :: rest =>
    if c = '"' then .ok rest
    else if c = '\\' then
      match rest with
      | [] => .error (.before .endInString [])
      | e :: rest₁ =>
        if e = 'u' then
          match rest₁ with
          | h₁ :: h₂ :: h₃ :: h₄ :: rest₂ =>
            match hexQuad h₁ h₂ h₃ h₄ with
            | none => .error (hexFault rest₁)
            | some _ => skipString rest₂
          | _ => .error (hexFault rest₁)
        else
          match unescape e with
          | some _ => skipString rest₁
          | none => .error (.on .invalidEscape rest)
    else if c.toNat < 0x20 then .error (.before .controlCharacter (c :: rest))
    else skipString rest

end Issuance.Json

import Issuance.Json.NumberLiteral
import Issuance.Json.StringLiteral

/-! # Reading JSON

    Values are read from the left; the first thing that does not fit is the fault reported. Arrays
    and objects may hold each other up to `depthLimit` deep. A repeated name keeps its first place
    and takes its last value.

    The readers of values, items and members call each other with a number of steps to go; a text of
    `n` characters needs no more than `stepsFor` it, which is what `parse` grants. -/

namespace Issuance.Json

/-- How many arrays and objects may be open at a time. -/
def depthLimit : Nat := 127

/-- The white space between tokens. -/
def isSpace (c : Char) : Bool := c == ' ' || c == '\n' || c == '\t' || c == '\r'

/-- The rest of a text from its next token on. -/
def skipSpace (s : List Char) : List Char := s.dropWhile isSpace

/-- Reads the rest of a keyword. -/
def readKeyword : List Char → List Char → Except Fault (List Char)
  | [], s => .ok s
  | _ :: _, [] => .error (.before .endInValue [])
  | k :: word, c :: rest =>
    if c = k then readKeyword word rest else .error (.on .expectedKeyword (c :: rest))

/-- Reads the colon between a name and a value. -/
def readColon (s : List Char) : Except Fault (List Char) :=
  match skipSpace s with
  | [] => .error (.before .endInObject [])
  | c :: rest => if c = ':' then .ok rest else .error (.on .expectedColon (c :: rest))

/-- What follows an item: the end of the array, with the rest behind it, or the next item. -/
inductive Next where
  | done (rest : List Char)
  | more (rest : List Char)

/-- Where the next item of an array starts, if there is one. -/
def nextItem (first : Bool) (s : List Char) : Except Fault Next :=
  match skipSpace s with
  | [] => .error (.before .endInList [])
  | c :: rest =>
    if c = ']' then .ok (.done rest)
    else if first then .ok (.more (c :: rest))
    else if c = ',' then
      match skipSpace rest with
      | [] => .error (.before .endInValue [])
      | d :: rest' =>
        if d = ']' then .error (.on .trailingComma (d :: rest')) else .ok (.more (d :: rest'))
    else .error (.on .expectedListEnd (c :: rest))

/-- Where the next name in an object starts, behind its opening quote, if there is one. -/
def nextName (first : Bool) (s : List Char) : Except Fault Next :=
  match skipSpace s with
  | [] => .error (.before .endInObject [])
  | c :: rest =>
    if c = '}' then .ok (.done rest)
    else if first then
      if c = '"' then .ok (.more rest) else .error (.on .nameNotString (c :: rest))
    else if c = ',' then
      match skipSpace rest with
      | [] => .error (.before .endInValue [])
      | d :: rest' =>
        if d = '"' then .ok (.more rest')
        else if d = '}' then .error (.on .trailingComma (d :: rest'))
        else .error (.on .nameNotString (d :: rest'))
    else .error (.on .expectedObjectEnd (c :: rest))

mutual

/-- Reads a value, with `depth` arrays and objects still allowed. -/
def readValue : Nat → Nat → List Char → Except Fault (Json × List Char)
  | 0, _, s => .error (.before .tooDeep s)
  | steps + 1, depth, s =>
    match skipSpace s with
    | [] => .error (.before .endInValue [])
    | c :: rest =>
      if c = 'n' then (readKeyword "ull".toList rest).map fun r => (.null, r)
      else if c = 't' then (readKeyword "rue".toList rest).map fun r => (.bool true, r)
      else if c = 'f' then (readKeyword "alse".toList rest).map fun r => (.bool false, r)
      else if c = '"' then (readString rest).map fun p => (.string (String.ofList p.1), p.2)
      else if c = '-' then (readNumber true rest).map fun p => (.number p.1, p.2)
      else if isDigit c then (readNumber false (c :: rest)).map fun p => (.number p.1, p.2)
      else if c = '[' then
        match depth with
        | 0 => .error (.on .tooDeep (c :: rest))
        | depth + 1 => (readItems steps depth true rest).map fun p => (.array p.1, p.2)
      else if c = '{' then
        match depth with
        | 0 => .error (.on .tooDeep (c :: rest))
        | depth + 1 =>
          (readMembers steps depth true rest).map fun p => (.object (Object.ofMembers p.1), p.2)
      else .error (.on .expectedValue (c :: rest))

/-- Reads the items of an array that are still to come, and its end. -/
def readItems : Nat → Nat → Bool → List Char → Except Fault (List Json × List Char)
  | 0, _, _, s => .error (.before .tooDeep s)
  | steps + 1, depth, first, s =>
    match nextItem first s with
    | .error f => .error f
    | .ok (.done rest) => .ok ([], rest)
    | .ok (.more rest) =>
      match readValue steps depth rest with
      | .error f => .error f
      | .ok (v, rest') => (readItems steps depth false rest').map fun p => (v :: p.1, p.2)

/-- Reads the members of an object that are still to come, and its end. -/
def readMembers : Nat → Nat → Bool → List Char → Except Fault (List (String × Json) × List Char)
  | 0, _, _, s => .error (.before .tooDeep s)
  | steps + 1, depth, first, s =>
    match nextName first s with
    | .error f => .error f
    | .ok (.done rest) => .ok ([], rest)
    | .ok (.more rest) =>
      match readString rest with
      | .error f => .error f
      | .ok (name, rest₁) =>
        match readColon rest₁ with
        | .error f => .error f
        | .ok rest₂ =>
          match readValue steps depth rest₂ with
          | .error f => .error f
          | .ok (v, rest₃) =>
            (readMembers steps depth false rest₃).map fun p =>
              ((String.ofList name, v) :: p.1, p.2)

end

/-- Steps enough to read a text: each character is met at most twice. -/
def stepsFor (s : List Char) : Nat := 2 * s.length + 2

/-- Checks that nothing but white space is left. -/
def readEnd (s : List Char) : Except Fault Unit :=
  match skipSpace s with
  | [] => .ok ()
  | c :: rest => .error (.on .trailingCharacters (c :: rest))

/-- Reads a text that is one value. -/
def readDocument (s : List Char) : Except Fault Json :=
  match readValue (stepsFor s) depthLimit s with
  | .error f => .error f
  | .ok (v, rest) => (readEnd rest).map fun _ => v

/-- The value that a text holds, or the diagnostic of what is wrong with it. -/
def parse (text : List Char) : Except Diagnostic Json :=
  (readDocument text).mapError fun f => f.locate text

end Issuance.Json

import Issuance.Json.Reader

/-! # Skimming over values

    A member that nobody asks for is passed over without reading what it holds: its tokens have to
    be in order, but numbers may be out of range, surrogates alone, and nesting as deep as it likes.
    Where the order of the tokens is wrong the reasons are less specific than a reader's. -/

namespace Issuance.Json

/-- Where the next item of a skimmed array starts, if there is one. -/
def skimItem (first : Bool) (s : List Char) : Except Fault Next :=
  match skipSpace s with
  | [] => .error (.before .endInList [])
  | c :: rest =>
    if c = ']' then .ok (.done rest)
    else if first then .ok (.more (c :: rest))
    else if c = ',' then .ok (.more rest)
    else .error (.on .expectedListEnd (c :: rest))

/-- The rest of a text behind the quote that opens a name. -/
def openName (s : List Char) : Except Fault Next :=
  match skipSpace s with
  | [] => .error (.before .endInObject [])
  | c :: rest => if c = '"' then .ok (.more rest) else .error (.on .nameNotString (c :: rest))

/-- Where the next name in a skimmed object starts, behind its opening quote, if there is one. -/
def skimName (first : Bool) (s : List Char) : Except Fault Next :=
  match skipSpace s with
  | [] => .error (.before .endInObject [])
  | c :: rest =>
    if c = '}' then .ok (.done rest)
    else if first then openName (c :: rest)
    else if c = ',' then openName rest
    else .error (.on .expectedObjectEnd (c :: rest))

mutual

/-- What follows the value that starts here. -/
def skimValue : Nat → List Char → Except Fault (List Char)
  | 0, s => .error (.before .tooDeep s)
  | steps + 1, s =>
    match skipSpace s with
    | [] => .error (.before .endInValue [])
    | c :: rest =>
      if c = 'n' then readKeyword "ull".toList rest
      else if c = 't' then readKeyword "rue".toList rest
      else if c = 'f' then readKeyword "alse".toList rest
      else if c = '"' then skipString rest
      else if c = '-' then skipNumber rest
      else if isDigit c then skipNumber (c :: rest)
      else if c = '[' then skimItems steps true rest
      else if c = '{' then skimMembers steps true rest
      else .error (.on .expectedValue (c :: rest))

/-- What follows the array whose further items start here. -/
def skimItems : Nat → Bool → List Char → Except Fault (List Char)
  | 0, _, s => .error (.before .tooDeep s)
  | steps + 1, first, s =>
    match skimItem first s with
    | .error f => .error f
    | .ok (.done rest) => .ok rest
    | .ok (.more rest) =>
      match skimValue steps rest with
      | .error f => .error f
      | .ok rest' => skimItems steps false rest'

/-- What follows the object whose further members start here. -/
def skimMembers : Nat → Bool → List Char → Except Fault (List Char)
  | 0, _, s => .error (.before .tooDeep s)
  | steps + 1, first, s =>
    match skimName first s with
    | .error f => .error f
    | .ok (.done rest) => .ok rest
    | .ok (.more rest) =>
      match skipString rest with
      | .error f => .error f
      | .ok rest₁ =>
        match readColon rest₁ with
        | .error f => .error f
        | .ok rest₂ =>
          match skimValue steps rest₂ with
          | .error f => .error f
          | .ok rest₃ => skimMembers steps false rest₃

end

/-- What follows the value that starts here, when nobody asks for it. -/
def skim (s : List Char) : Except Fault (List Char) := skimValue (stepsFor s) s

end Issuance.Json

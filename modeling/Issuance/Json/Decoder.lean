import Issuance.Json.Printer
import Issuance.Json.Skim

/-! # Reading values of a known shape

    A decoder reads one value of the shape it wants straight off the text. The first thing that does
    not fit is reported where it stands: a value of the wrong type right behind it, or before it if
    it is an array or an object; a missing or repeated member, or a wrong number of items, behind
    the bracket that ends what is read, or before whatever stands in its place. -/

namespace Issuance.Json

/-- Reads a value of a known shape, with so many arrays and objects still allowed. -/
def Decoder (α : Type) : Type := Nat → List Char → Except Fault (α × List Char)

namespace Decoder

/-- What stands at the head of a text where something else was expected, as a fault. -/
def mismatch (expected : String) (s : List Char) : Fault :=
  match s with
  | [] => .before .endInValue []
  | c :: rest =>
    let wrong (found : Found) (rest' : List Char) : Fault :=
      .before (.wrongType found expected) rest'
    let after (found : Found) : Except Fault (List Char) → Fault
      | .ok rest' => wrong found rest'
      | .error f => f
    let afterNumber : Except Fault (Number × List Char) → Fault
      | .ok (.whole n, rest') => wrong (.whole n) rest'
      | .ok (.float negative x, rest') => wrong (.float (Number.text (.float negative x))) rest'
      | .error f => f
    if c = 'n' then after .null (readKeyword "ull".toList rest)
    else if c = 't' then after (.bool true) (readKeyword "rue".toList rest)
    else if c = 'f' then after (.bool false) (readKeyword "alse".toList rest)
    else if c = '-' then afterNumber (readNumber true rest)
    else if isDigit c then afterNumber (readNumber false (c :: rest))
    else if c = '"' then
      match readString rest with
      | .ok (t, rest') => wrong (.string (String.ofList t)) rest'
      | .error f => f
    else if c = '[' then wrong .array (c :: rest)
    else if c = '{' then wrong .object (c :: rest)
    else .on .expectedValue (c :: rest)

/-- Any value. -/
def value : Decoder Json := fun depth s => readValue (stepsFor s) depth s

/-- A string. -/
def string : Decoder String := fun _ s =>
  match skipSpace s with
  | [] => .error (.before .endInValue [])
  | c :: rest =>
    if c = '"' then (readString rest).map fun p => (String.ofList p.1, p.2)
    else .error (mismatch "a string" (c :: rest))

/-- A truth value. -/
def bool : Decoder Bool := fun _ s =>
  match skipSpace s with
  | [] => .error (.before .endInValue [])
  | c :: rest =>
    if c = 't' then (readKeyword "rue".toList rest).map fun r => (true, r)
    else if c = 'f' then (readKeyword "alse".toList rest).map fun r => (false, r)
    else .error (mismatch "a boolean" (c :: rest))

/-- Nothing for null, else what `inner` reads. -/
def optional {α : Type} (inner : Decoder α) : Decoder (Option α) := fun depth s =>
  match skipSpace s with
  | [] => (inner depth []).map fun p => (some p.1, p.2)
  | c :: rest =>
    if c = 'n' then (readKeyword "ull".toList rest).map fun r => (none, r)
    else (inner depth (c :: rest)).map fun p => (some p.1, p.2)

/-- What `f` makes of the value that `inner` reads. -/
def map {α β : Type} (f : α → β) (inner : Decoder α) : Decoder β := fun depth s =>
  (inner depth s).map fun p => (f p.1, p.2)

/-- The items of an array that are still to come, and its end. -/
def itemsFrom {α : Type} (item : Decoder α) (depth : Nat) :
    Nat → Bool → List Char → Except Fault (List α × List Char)
  | 0, _, s => .error (.before .tooDeep s)
  | steps + 1, first, s =>
    match nextItem first s with
    | .error f => .error f
    | .ok (.done rest) => .ok ([], rest)
    | .ok (.more rest) =>
      match item depth rest with
      | .error f => .error f
      | .ok (v, rest') => (itemsFrom item depth steps false rest').map fun p => (v :: p.1, p.2)

/-- An array of values that `item` reads. -/
def array {α : Type} (item : Decoder α) : Decoder (List α) := fun depth s =>
  match skipSpace s with
  | [] => .error (.before .endInValue [])
  | c :: rest =>
    if c = '[' then
      match depth with
      | 0 => .error (.on .tooDeep (c :: rest))
      | depth + 1 => itemsFrom item depth (stepsFor rest) true rest
    else .error (mismatch "a sequence" (c :: rest))

/-- Any object. -/
def object : Decoder Object := fun depth s =>
  match skipSpace s with
  | [] => .error (.before .endInValue [])
  | c :: rest =>
    if c = '{' then
      match depth with
      | 0 => .error (.on .tooDeep (c :: rest))
      | depth + 1 =>
        (readMembers (stepsFor rest) depth true rest).map fun p => (Object.ofMembers p.1, p.2)
    else .error (mismatch "a map" (c :: rest))

/-! ### Records -/

/-- What is left behind the end of an object that cannot be made sense of: behind its bracket if
    that comes next, else the next token. -/
def closeObject (s : List Char) : List Char :=
  match skipSpace s with
  | c :: rest => if c = '}' then rest else c :: rest
  | [] => []

/-- The member of a record: its name, whether a draft of the record has it already, how it is read
    into a draft, and whether an array may end before it. -/
structure Slot (δ : Type) where
  name : String
  isFilled : δ → Bool
  read : δ → Decoder δ
  mayBeLeftOut : Bool

/-- A record: how it is announced in diagnostics, its members, the draft with no member read, and
    the record that a draft makes, or the name of a member it lacks. -/
structure Shape (δ α : Type) where
  title : String
  slots : List (Slot δ)
  blank : δ
  build : δ → Except String α

/-- Slot for a member kept as an option in the draft. -/
def Slot.member {δ β : Type} (name : String) (get : δ → Option β) (set : δ → β → δ)
    (inner : Decoder β) (mayBeLeftOut : Bool) : Slot δ where
  name := name
  isFilled d := (get d).isSome
  read d := inner.map (set d)
  mayBeLeftOut := mayBeLeftOut

/-- Reads the further members of an object into a draft. Members without a slot are skimmed over. -/
def fillByName {δ : Type} (slots : List (Slot δ)) (depth : Nat) :
    Nat → Bool → δ → List Char → Except Fault (δ × List Char)
  | 0, _, _, s => .error (.before .tooDeep s)
  | steps + 1, first, draft, s =>
    match nextName first s with
    | .error f => .error f
    | .ok (.done rest) => .ok (draft, rest)
    | .ok (.more rest) =>
      match readString rest with
      | .error f => .error f
      | .ok (name, rest₁) =>
        match slots.find? fun t => t.name == String.ofList name with
        | none =>
          match (readColon rest₁).bind skim with
          | .error f => .error f
          | .ok rest₂ => fillByName slots depth steps false draft rest₂
        | some t =>
          if t.isFilled draft then
            .error (.before (.repeatedMember t.name) (closeObject rest₁))
          else
            match (readColon rest₁).bind (t.read draft depth) with
            | .error f => .error f
            | .ok (draft', rest₂) => fillByName slots depth steps false draft' rest₂

/-- Reads the items of an array into the slots of a draft, in order; `count` are read already. -/
def fillInOrder {δ : Type} (expected : String) (depth : Nat) :
    List (Slot δ) → Nat → δ → List Char → Except Fault (δ × List Char)
  | [], _, draft, s => .ok (draft, s)
  | t :: slots, count, draft, s =>
    match nextItem (count == 0) s with
    | .error f => .error f
    | .ok (.done rest) =>
      if t.mayBeLeftOut then fillInOrder expected depth slots count draft s
      else .error (.before (.wrongLength count expected) rest)
    | .ok (.more rest) =>
      match t.read draft depth rest with
      | .error f => .error f
      | .ok (draft', rest') => fillInOrder expected depth slots (count + 1) draft' rest'

/-- Reads the end of an array whose items are all read. -/
def closeArray (s : List Char) : Except Fault (List Char) :=
  match skipSpace s with
  | [] => .error (.before .endInList [])
  | c :: rest =>
    if c = ']' then .ok rest
    else if c = ',' then
      match skipSpace rest with
      | [] => .error (.before .trailingCharacters [])
      | d :: rest' =>
        .error (.on (if d = ']' then .trailingComma else .trailingCharacters) (d :: rest'))
    else .error (.on .trailingCharacters (c :: rest))

/-- A record, from an object or from an array of its members in order. -/
def record {δ α : Type} (shape : Shape δ α) : Decoder α := fun depth s =>
  match skipSpace s with
  | [] => .error (.before .endInValue [])
  | c :: rest =>
    if c = '{' then
      match depth with
      | 0 => .error (.on .tooDeep (c :: rest))
      | depth + 1 =>
        match fillByName shape.slots depth (stepsFor rest) true shape.blank rest with
        | .error f => .error f
        | .ok (draft, rest') =>
          match shape.build draft with
          | .ok v => .ok (v, rest')
          | .error name => .error (.before (.missingMember name) rest')
    else if c = '[' then
      match depth with
      | 0 => .error (.on .tooDeep (c :: rest))
      | depth + 1 =>
        let expected := shape.title ++ " with " ++ numeral shape.slots.length ++
          " elements"
        match fillInOrder expected depth shape.slots 0 shape.blank rest with
        | .error f => .error f
        | .ok (draft, rest') =>
          match shape.build draft with
          | .ok v => (closeArray rest').map fun r => (v, r)
          | .error name => .error (.before (.missingMember name) rest')
    else .error (mismatch shape.title (c :: rest))

/-- Reads a text that is one value of a known shape. -/
def readAll {α : Type} (decoder : Decoder α) (s : List Char) : Except Fault α :=
  match decoder depthLimit s with
  | .error f => .error f
  | .ok (v, rest) => (readEnd rest).map fun _ => v

/-- The value of a known shape that a text holds, or the diagnostic of what is wrong with it. -/
def run {α : Type} (decoder : Decoder α) (text : List Char) : Except Diagnostic α :=
  (decoder.readAll text).mapError fun f => f.locate text

end Decoder
end Issuance.Json

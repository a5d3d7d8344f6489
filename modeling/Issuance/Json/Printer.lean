import Issuance.Json.Basic
import Issuance.Text.Hex

/-! # Writing JSON

    The compact form has no space between tokens. The spread form puts each item and each member on
    a line of its own, two spaces deeper than what holds it; an empty array or object stays on one
    line. Strings and numbers look the same in both. -/

namespace Issuance.Json

/-- One character inside a JSON string: quotes, backslashes and controls are escaped. -/
def escapeChar (c : Char) : List Char :=
  if c = '"' then ['\\', '"']
  else if c = '\\' then ['\\', '\\']
  else if c.toNat = 8 then ['\\', 'b']
  else if c.toNat = 12 then ['\\', 'f']
  else if c = '\n' then ['\\', 'n']
  else if c = '\r' then ['\\', 'r']
  else if c = '\t' then ['\\', 't']
  else if c.toNat < 0x10 then ['\\', 'u', '0', '0', '0'] ++ Text.hexDigits c.toNat
  else if c.toNat < 0x20 then ['\\', 'u', '0', '0'] ++ Text.hexDigits c.toNat
  else [c]

/-- A text as the content of a JSON string. -/
def escape (s : List Char) : List Char := s.flatMap escapeChar

/-- A text as a JSON string. -/
def quote (s : List Char) : List Char := '"' :: escape s ++ ['"']

/-- A number as JSON writes it. -/
def Number.text : Number → List Char
  | .whole n => integerText n
  | .float negative x => if negative then '-' :: x.text else x.text

/-- The word for a truth value. -/
def boolText (b : Bool) : List Char := if b then "true".toList else "false".toList

mutual

/-- A value in compact form. -/
def compact : Json → List Char
  | .null => "null".toList
  | .bool b => boolText b
  | .number n => n.text
  | .string s => quote s.toList
  | .array items => '[' :: compactItems items ++ [']']
  | .object members => '{' :: compactMembers members ++ ['}']

/-- Items in compact form, with commas between them. -/
def compactItems : List Json → List Char
  | [] => []
  | [v] => compact v
  | v :: w :: rest => compact v ++ ',' :: compactItems (w :: rest)

/-- Members in compact form, with commas between them. -/
def compactMembers : List (String × Json) → List Char
  | [] => []
  | [(n, v)] => quote n.toList ++ ':' :: compact v
  | (n, v) :: m :: rest => quote n.toList ++ ':' :: compact v ++ ',' :: compactMembers (m :: rest)

end

/-- A line end and the space before a line at the given depth. -/
def newline (depth : Nat) : List Char := '\n' :: List.replicate (2 * depth) ' '

mutual

/-- A value in spread form, inside `depth` arrays and objects. -/
def spreadAt (depth : Nat) : Json → List Char
  | .null => "null".toList
  | .bool b => boolText b
  | .number n => n.text
  | .string s => quote s.toList
  | .array [] => ['[', ']']
  | .array (v :: rest) => '[' :: spreadItems (depth + 1) (v :: rest) ++ newline depth ++ [']']
  | .object [] => ['{', '}']
  | .object (m :: rest) => '{' :: spreadMembers (depth + 1) (m :: rest) ++ newline depth ++ ['}']

/-- Items in spread form, each behind a line end. -/
def spreadItems (depth : Nat) : List Json → List Char
  | [] => []
  | [v] => newline depth ++ spreadAt depth v
  | v :: w :: rest => newline depth ++ spreadAt depth v ++ ',' :: spreadItems depth (w :: rest)

/-- Members in spread form, each behind a line end. -/
def spreadMembers (depth : Nat) : List (String × Json) → List Char
  | [] => []
  | [(n, v)] => newline depth ++ quote n.toList ++ [':', ' '] ++ spreadAt depth v
  | (n, v) :: m :: rest =>
    newline depth ++ quote n.toList ++ [':', ' '] ++ spreadAt depth v ++
      ',' :: spreadMembers depth (m :: rest)

end

/-- A value in spread form. -/
def spread (v : Json) : List Char := spreadAt 0 v

/-- A value in compact form, as a string. -/
def compactText (v : Json) : String := String.ofList v.compact

/-- A value in spread form, as a string. -/
def spreadText (v : Json) : String := String.ofList v.spread

end Issuance.Json

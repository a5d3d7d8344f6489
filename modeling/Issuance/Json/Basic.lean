import Issuance.Json.Decimal

/-! # JSON values

    Values as a document holds them. Members of an object keep the order in which their names first
    came: writing to a name that is there replaces the value where it stands, writing to a new name
    adds a member at the end. -/

namespace Issuance

namespace Json

/-- A number: a whole one, or one that was written with a point, an exponent or too many digits. -/
inductive Number where
  | whole (value : Int)
  | float (negative : Bool) (value : Magnitude)
  deriving DecidableEq, Repr

end Json

/-- A JSON value. -/
inductive Json where
  | null
  | bool (value : Bool)
  | number (value : Json.Number)
  | string (value : String)
  | array (items : List Json)
  | object (members : List (String × Json))

namespace Json

/-- The members of an object, in order. -/
abbrev Object := List (String × Json)

namespace Object

/-- The value under a name. -/
def get? (name : String) : Object → Option Json
  | [] => none
  | (n, v) :: rest => if n = name then some v else get? name rest

/-- Writes a member: in place if the name is there, else at the end. -/
def insert (name : String) (value : Json) : Object → Object
  | [] => [(name, value)]
  | (n, v) :: rest => if n = name then (n, value) :: rest else (n, v) :: insert name value rest

/-- Writes members one after the other. -/
def overlay (base upper : Object) : Object := upper.foldl (fun o m => insert m.1 m.2 o) base

/-- The object that comes of writing members one after the other. -/
def ofMembers (members : List (String × Json)) : Object := overlay [] members

/-- The names of the members, in order. -/
def names (o : Object) : List String := o.map Prod.fst

end Object

/-- The member of a value under a name; only objects have members. -/
def member? (name : String) : Json → Option Json
  | .object members => Object.get? name members
  | _ => none

/-- The text of a string value. -/
def text? : Json → Option String
  | .string s => some s
  | _ => none

/-- What a value is, as diagnostics name it. -/
def kindName : Json → String
  | .null => "null"
  | .bool _ => "a boolean"
  | .number _ => "a number"
  | .string _ => "a string"
  | .array _ => "an array"
  | .object _ => "an object"

/-- A value made of one text. -/
def ofText (s : List Char) : Json := .string (String.ofList s)

end Json
end Issuance

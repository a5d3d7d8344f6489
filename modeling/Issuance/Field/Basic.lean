import Issuance.Text.Blank
import Issuance.Json.Decoder

/-! # Fields of a template

    A field is something a template asks for: an id that names its value in forms and placeholders,
    a type that hints at how to ask, a label to show, whether it has to be filled in, and the values
    it may take if they are listed. The type is a hint only; nothing checks values against it. -/

namespace Issuance

/-- What kind of value a field takes. -/
inductive FieldType where
  | text
  | did
  | number
  | date
  | select
  | other (name : String)
  deriving DecidableEq, Repr

namespace FieldType

/-- The type with a given name; names without a meaning of their own are kept as they are. -/
def ofName (name : String) : FieldType :=
  if name = "text" then .text
  else if name = "did" then .did
  else if name = "number" then .number
  else if name = "date" then .date
  else if name = "select" then .select
  else .other name

/-- The name of a type. -/
def name : FieldType → String
  | .text => "text"
  | .did => "did"
  | .number => "number"
  | .date => "date"
  | .select => "select"
  | .other name => name

end FieldType

/-- A field of a template. -/
structure FieldSpec where
  id : String
  type : FieldType
  label : String
  required : Bool := false
  values : Option (List String) := none
  deriving DecidableEq, Repr

namespace FieldSpec

/-- Adds a choice, trimmed, unless it is blank or there already. -/
def addChoice (choices : List String) (choice : List Char) : List String :=
  let c := Text.trim choice
  if c = [] ∨ String.ofList c ∈ choices then choices else choices ++ [String.ofList c]

/-- The choices that a list of texts stands for: trimmed, without blanks and repeats. -/
def choicesOf (texts : List (List Char)) : List String := texts.foldl addChoice []

/-- The field with the given choices, or with none if all of them are blank. -/
def withValues (f : FieldSpec) (texts : List (List Char)) : FieldSpec :=
  let choices := choicesOf texts
  { f with values := if choices = [] then none else some choices }

/-- The field as a JSON value; choices are left out if there are none. -/
def toJson (f : FieldSpec) : Json :=
  .object <|
    [("id", .string f.id), ("type", .string f.type.name), ("label", .string f.label),
      ("required", .bool f.required)] ++
    match f.values with
    | none => []
    | some vs => [("values", .array (vs.map .string))]

/-- A field of which some members are read. -/
structure Draft where
  id : Option String := none
  type : Option FieldType := none
  label : Option String := none
  required : Option Bool := none
  values : Option (Option (List String)) := none

/-- The members of a field in JSON. The last two may be missing. -/
def shape : Json.Decoder.Shape Draft FieldSpec where
  title := "struct FieldSpec"
  slots :=
    [.member "id" Draft.id (fun d v => { d with id := some v }) .string false,
      .member "type" Draft.type (fun d v => { d with type := some v })
        (Json.Decoder.string.map FieldType.ofName) false,
      .member "label" Draft.label (fun d v => { d with label := some v }) .string false,
      .member "required" Draft.required (fun d v => { d with required := some v }) .bool true,
      .member "values" Draft.values (fun d v => { d with values := some v })
        (.optional (.array .string)) true]
  blank := {}
  build d :=
    match d.id, d.type, d.label with
    | none, _, _ => .error "id"
    | _, none, _ => .error "type"
    | _, _, none => .error "label"
    | some id, some type, some label =>
      .ok ⟨id, type, label, d.required.getD false, d.values.getD none⟩

/-- Reads a field. -/
def decoder : Json.Decoder FieldSpec := .record shape

end FieldSpec
end Issuance

import Issuance.Field.TypeString
import Issuance.Json.Printer
import Issuance.Template.Basic

/-! # WPM, the object format

    A WPM template is a JSON object: the skeleton is its member `vc`, and `meta` may give a name, a
    key, a context and the fields, each as a type string under its id. Only a missing skeleton is a
    flaw; whatever else is missing or of the wrong type is made up for. -/

namespace Issuance.Wpm

/-- The name of a template that gives none. -/
def defaultName : String := "Untitled"

/-- The text of a member, if it is a string and not blank. -/
def filledText? (name : String) (v : Json) : Option String :=
  ((v.member? name).bind Json.text?).filter fun s => !Text.allBlank s.toList

/-- A member among the fields as a type string. -/
def typeString : Json → String
  | .string s => String.ofList (Text.trim s.toList)
  | .null => ""
  | v => v.compactText

/-- The field that a member describes; it is labelled with its id. -/
def field (member : String × Json) : FieldSpec :=
  let spec := typeString member.2
  { id := member.1
    type := TypeString.fieldType spec
    label := member.1
    required := TypeString.isRequired spec }

/-- The fields that the description of a template gives. -/
def fields (description : Json) : List FieldSpec :=
  match description.member? "fields" with
  | some (.object members) => members.map field
  | _ => []

/-- The template that a value describes. The key falls back to the name. -/
def template (raw : Json) : Except Flaw Template :=
  match raw.member? "vc" with
  | some (.object vc) =>
    let description := (raw.member? "meta").getD .null
    let name := (filledText? "name" description).getD defaultName
    let key := (filledText? "key" description).getD name
    Template.build key name (filledText? "context" description) (fields description)
      (.json (.object vc))
  | _ => .error .objectLacksCredential

end Issuance.Wpm

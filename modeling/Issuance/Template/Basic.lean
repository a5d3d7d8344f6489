import Issuance.Error
import Issuance.Field.Basic

/-! # Templates

    A template says what a credential is made from: a key and a name, fields to fill in, values used
    for fields that are left out, and a skeleton with placeholders. The skeleton is a text that
    becomes JSON once its placeholders are filled, or a JSON object whose strings hold them. -/

namespace Issuance

/-- What a credential is made from by filling placeholders. -/
inductive Skeleton where
  | text (body : String)
  | object (members : Json.Object)

/-- The name of the kind of a skeleton. -/
def Skeleton.kindName : Skeleton → String
  | .text _ => "Text"
  | .object _ => "Object"

/-- What a form needs to know about a template. -/
structure Summary where
  key : String
  name : String
  context : Option String
  fields : List FieldSpec
  defaults : Json.Object := []

/-- A template for credentials. -/
structure Template extends Summary where
  skeleton : Skeleton

/-- What a skeleton is made from before it is checked. -/
inductive Body where
  | text (body : String)
  | json (value : Json)

namespace Body

/-- The skeleton that a body makes: a text must not be blank, and a value must be an object. -/
def skeleton : Body → Except Flaw Skeleton
  | .text body => if Text.allBlank body.toList then .error .emptyBody else .ok (.text body)
  | .json (.object members) => .ok (.object members)
  | .json _ => .error .bodyNotObject

end Body

/-- The first text in a list that stood in it before, or among those seen already. -/
def firstRepeat (seen : List String) : List String → Option String
  | [] => none
  | s :: rest => if s ∈ seen then some s else firstRepeat (s :: seen) rest

namespace Template

/-- A template without defaults. The key and the name must not be blank, the body must make a
    skeleton, and no two fields may share an id; a blank context counts as none. -/
def build (key name : String) (context : Option String) (fields : List FieldSpec) (body : Body) :
    Except Flaw Template :=
  if Text.allBlank key.toList then .error .missingKey
  else if Text.allBlank name.toList then .error .missingName
  else
    match body.skeleton with
    | .error flaw => .error flaw
    | .ok skeleton =>
      match firstRepeat [] (fields.map FieldSpec.id) with
      | some id => .error (.repeatedField id)
      | none =>
        .ok
          { key, name, fields, skeleton
            context := context.filter fun c => !Text.allBlank c.toList }

/-- The template with the values used for fields that a form leaves out. -/
def withDefaults (t : Template) (defaults : Json.Object) : Template :=
  { t with defaults := defaults }

/-- The field with an id. -/
def field? (t : Template) (id : String) : Option FieldSpec := t.fields.find? fun f => f.id == id

end Template

namespace Summary

/-- The summary as a JSON value; the context and the defaults are left out if there are none. -/
def toJson (m : Summary) : Json :=
  .object <|
    [("key", .string m.key), ("name", .string m.name)] ++
    (match m.context with
    | none => []
    | some c => [("context", .string c)]) ++
    [("fields", .array (m.fields.map FieldSpec.toJson))] ++
    (if m.defaults.isEmpty then [] else [("defaults", .object m.defaults)])

/-- A summary of which some members are read. -/
structure Draft where
  key : Option String := none
  name : Option String := none
  context : Option (Option String) := none
  fields : Option (List FieldSpec) := none
  defaults : Option Json.Object := none

/-- The members of a summary in JSON. In an object the context may be missing; the defaults may be
    missing anywhere. -/
def shape : Json.Decoder.Shape Draft Summary where
  title := "struct TemplateMeta"
  slots :=
    [.member "key" Draft.key (fun d v => { d with key := some v }) .string false,
      .member "name" Draft.name (fun d v => { d with name := some v }) .string false,
      .member "context" Draft.context (fun d v => { d with context := some v })
        (.optional .string) false,
      .member "fields" Draft.fields (fun d v => { d with fields := some v })
        (.array FieldSpec.decoder) false,
      .member "defaults" Draft.defaults (fun d v => { d with defaults := some v }) .object true]
  blank := {}
  build d :=
    match d.key, d.name, d.fields with
    | none, _, _ => .error "key"
    | _, none, _ => .error "name"
    | _, _, none => .error "fields"
    | some key, some name, some fields =>
      .ok ⟨key, name, d.context.getD none, fields, d.defaults.getD []⟩

/-- Reads a summary. -/
def decoder : Json.Decoder Summary := .record shape

end Summary
end Issuance

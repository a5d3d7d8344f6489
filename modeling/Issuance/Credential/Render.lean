import Issuance.Credential.Basic
import Issuance.Credential.Context
import Issuance.Instant
import Issuance.Json.Reader
import Issuance.Placeholder
import Issuance.Traced

/-! # Rendering

    Rendering a template for a context takes these steps.

    1. The form is laid over the defaults, and every required field must have a value.
    2. The clock is read, once, and an id is taken for the rendering.
    3. The placeholders of the skeleton are filled, from the form, the organization and, for a text,
       the context of the template.
    4. The text that comes of it must be a JSON object.
    5. The issuer is set to the organization's DID, and the context, the date of issue and the token
       id are filled in where the object leaves them empty. Only a token id that is filled in takes
       another id.

    How often the clock was read and how many ids were taken is carried from one rendering to the
    next. -/

namespace Issuance

/-- The context of credentials that name none. -/
def credentialContext : String := "https://www.w3.org/2018/credentials/v1"

/-- Where the time and ids come from, by the number of the reading, and how values are put in. -/
structure Renderer where
  clock : Nat → Instant
  ids : Nat → String
  escaping : Placeholder.Escaping := .verbatim

/-- How often the clock was read and how many ids were taken. -/
structure Usage where
  clockReads : Nat := 0
  idsTaken : Nat := 0
  deriving DecidableEq, Repr

/-- The ids `id-1`, `id-2` and so on. -/
def sequentialIds (n : Nat) : String := "id-" ++ Json.numeral (n + 1)

/-! ### Required fields -/

/-- Whether a value does not count as filled in: absent, null, or a string of white space. -/
def isMissing : Option Json → Bool
  | none => true
  | some .null => true
  | some (.string s) => Text.allBlank s.toList
  | some _ => false

/-- The first required field without a value. -/
def firstMissing (fields : List FieldSpec) (form : Json.Object) : Option FieldSpec :=
  fields.find? fun f => f.required && isMissing (form.get? f.id)

/-- Checks that every required field has a value in the form. -/
def Template.validate (t : Template) (form : Json.Object) : Except Error Unit :=
  match firstMissing t.fields form with
  | some f => .error (.missingRequiredField f.id)
  | none => .ok ()

namespace Template

/-! ### Filling the skeleton -/

/-- The values of the fields: those of the form, and the defaults of fields it leaves out. -/
def values (t : Template) (form : Json.Object) : Json.Object := Json.Object.overlay t.defaults form

/-- The name under which placeholders find the context. -/
def contextName : String := "$context"

/-- The JSON string that stands for the context in a text. -/
def contextLiteral : List Char := "\"$context\"".toList

/-- What placeholders can ask for: the fields, the organization over a field of that name, and for a
    text with a context the context over a field of that name. -/
def scope (t : Template) (ctx : RenderContext) : Json.Object :=
  let fieldsAndOrg := (t.values ctx.form).insert "org" ctx.org.toJson
  match t.skeleton, t.context with
  | .text _, some c => fieldsAndOrg.insert contextName (.string c)
  | _, _ => fieldsAndOrg

/-- The placeholders there are: only a text may ask for the context. -/
def grammar (t : Template) : Placeholder.Grammar :=
  match t.skeleton with
  | .text _ => { dollar := true }
  | .object _ => { dollar := false }

/-- The text whose placeholders are filled: a text with the context put in for the string that
    stands for it, or an object in compact form. -/
def source (t : Template) : List Char :=
  match t.skeleton, t.context with
  | .text body, some c => Text.replace contextLiteral (Json.quote c.toList) body.toList
  | .text body, none => body.toList
  | .object members, _ => Json.compact (.object members)

/-- The text that comes of filling the skeleton. -/
def filled (t : Template) (escaping : Placeholder.Escaping) (b : Placeholder.Builtins)
    (ctx : RenderContext) : List Char :=
  Placeholder.fillAll t.grammar escaping b (t.scope ctx) t.source

/-- The records of the placeholders without a value. -/
def missingRecords (t : Template) (b : Placeholder.Builtins) (ctx : RenderContext) : List Event :=
  (Placeholder.missing t.grammar b (t.scope ctx) t.source).map fun p => .noValue (String.ofList p)

end Template

/-- The object that a filled skeleton is. -/
def readBody (text : List Char) : Except Error Json.Object :=
  match Json.parse text with
  | .error d => .error (.renderFailure d)
  | .ok (.object members) => .ok members
  | .ok v => .error (.bodyNotObject v)

/-! ### Filling in what is left empty -/

/-- Whether a member counts as left empty: absent, null or the empty string. -/
def isUnset : Option Json → Bool
  | none => true
  | some .null => true
  | some (.string s) => s.isEmpty
  | some _ => false

/-- The object with a member written if it is left empty. -/
def fillIn (name : String) (value : Json) (body : Json.Object) : Json.Object :=
  if isUnset (body.get? name) then body.insert name value else body

/-- The token id made from an instant and an id: the second, and the first five letters and digits
    of the id. -/
def tokenId (t : Instant) (id : String) : String :=
  String.ofList <|
    "vc-".toList ++ Json.integerText t.seconds ++ '-' :: (id.toList.filter Char.isAlphanum).take 5

/-- The body of a credential: the issuer is always set, the rest where it is left empty. -/
def complete (did : String) (issued : Instant) (tokenSource : String) (body : Json.Object) :
    Json.Object :=
  fillIn "jti" (.string (tokenId issued tokenSource)) <|
    fillIn "issuanceDate" (Json.ofText issued.text) <|
      fillIn "@context" (.array [.string credentialContext]) <|
        body.insert "issuer" (.string did)

/-- Whether a token id has to be filled in. -/
def needsToken (body : Json.Object) : Bool := isUnset (body.get? "jti")

/-! ### Rendering -/

/-- A rendering: what came of it, and what it used. -/
structure Rendering where
  result : Traced Event Credential
  usage : Usage

namespace Renderer

/-- What the reserved placeholders stand for in the next rendering. -/
def builtins (r : Renderer) (u : Usage) : Placeholder.Builtins :=
  ⟨(r.clock u.clockReads).text, (r.ids u.idsTaken).toList⟩

/-- Renders a template for a context. -/
def render (r : Renderer) (t : Template) (ctx : RenderContext) (u : Usage) : Rendering :=
  match t.validate (t.values ctx.form) with
  | .error e => ⟨⟨[.rendering t.key], .error e⟩, u⟩
  | .ok () =>
    let b := r.builtins u
    let records := .rendering t.key :: t.missingRecords b ctx
    let used : Usage := ⟨u.clockReads + 1, u.idsTaken + 1⟩
    match readBody (t.filled r.escaping b ctx) with
    | .error e => ⟨⟨records, .error e⟩, used⟩
    | .ok body =>
      let finished := complete ctx.org.did (r.clock u.clockReads) (r.ids used.idsTaken) body
      { result := ⟨records ++ [.rendered t.key], .ok ⟨t.toSummary, finished⟩⟩
        usage := if needsToken body then { used with idsTaken := used.idsTaken + 1 } else used }

end Renderer
end Issuance

import Issuance.Placeholder
import Issuance.Template.Basic
import Issuance.Text.Lines
import Issuance.Text.Word

/-! # WPT, the directive format

    A WPT text has a header of directives, a line `---`, and the skeleton:

        # a comment
        @key: studentCard
        @type+: StudentCard
        @field subjectDid: did required label="Subject DID"
        @field dept: select values=CS|EE
        @default dept: CS
        ---

    Header lines are trimmed; blank ones and those that start with `#` are passed over, and every
    other line has to be a directive. If nothing but white space follows the separator, or there is
    none, the skeleton is made from the header: every field goes into the subject of the credential,
    under its id. -/

namespace Issuance.Wpt

open Placeholder (slot)

/-- The context of a template that names none. -/
def defaultContext : String := "https://www.w3.org/2018/credentials/v1"

/-- The line between the header and the body. -/
def separator : List Char := "---".toList

/-- Whether a line is the separator. -/
def isSeparator (line : List Char) : Bool := Text.trim line == separator

/-- The lines of the header that have to be directives, trimmed. -/
def headerLines (text : List Char) : List (List Char) :=
  (((Text.lines text).takeWhile (!isSeparator ·)).map Text.trim).filter fun l =>
    l ≠ [] && l.head? ≠ some '#'

/-- The text behind the separator, trimmed. -/
def body (text : List Char) : List Char :=
  Text.trim ((((Text.lines text).dropWhile (!isSeparator ·)).drop 1).flatMap (· ++ ['\n']))

/-! ### Fields -/

/-- The label that starts here: the text between the quotes behind `label=`. -/
def label? (s : List Char) : Option (List Char) :=
  (Text.after? "label=\"".toList s).bind fun rest =>
    if '"' ∈ rest then some (rest.takeWhile (· ≠ '"')) else none

/-- The choices that start here: what stands behind `values=` up to white space. -/
def choices? (s : List Char) : Option (List Char) :=
  (Text.after? "values=".toList s).bind fun rest =>
    let choices := rest.takeWhile (!Text.isBlank ·)
    if choices = [] then none else some choices

/-- A field, from a text like `id: kind required label="…" values=a|b`. The attributes behind the
    kind may come in any order; each is looked for by itself. -/
def field (text : List Char) : Except Flaw FieldSpec :=
  match Text.cut ':' text with
  | none => .error (.malformedField (String.ofList text))
  | some (before, behind) =>
    let id := Text.trim before
    let spec := Text.trim behind
    if id = [] ∨ spec = [] then .error (.malformedField (String.ofList text))
    else
      let kind := Text.firstWord spec
      let attributes := Text.trim (spec.drop kind.length)
      let f : FieldSpec :=
        { id := String.ofList id
          type := .ofName (String.ofList kind)
          label := String.ofList ((Text.search label? attributes).getD id)
          required := Text.hasWord "required".toList attributes }
      .ok <|
        match Text.search choices? attributes with
        | some choices => f.withValues (Text.splitOn '|' choices)
        | none => f

/-! ### Directives -/

/-- A directive of the header. -/
inductive Directive where
  | key (value : String)
  | name (value : String)
  | context (value : String)
  | type (value : String)
  | field (f : FieldSpec)
  | default (id value : String)

/-- The value behind a colon: trimmed, and with at least one character behind the colon. -/
def valueBehindColon? (s : List Char) : Option (List Char) :=
  match Text.trimStart s with
  | ':' :: rest => if rest = [] then none else some (Text.trim rest)
  | _ => none

/-- A name of letters and `+`, and a value, from a line like `@key: value`. -/
def keyValue? (line : List Char) : Option (List Char × List Char) :=
  match line with
  | '@' :: rest =>
    let isKeyChar (c : Char) : Bool := c.isAlpha || c == '+'
    let key := rest.takeWhile isKeyChar
    if key = [] then none
    else (valueBehindColon? (rest.dropWhile isKeyChar)).map fun value => (key, value)
  | _ => none

/-- An id and a value, from a line like `@default id: value`. -/
def default? (line : List Char) : Option (List Char × List Char) :=
  (Text.after? "@default".toList line).bind fun rest =>
    let rest' := Text.trimStart rest
    let id := rest'.takeWhile Placeholder.isPathChar
    if rest' = rest ∨ id = [] then none
    else (valueBehindColon? (rest'.dropWhile Placeholder.isPathChar)).map fun value => (id, value)

/-- The directive of a header line. -/
def directive (line : List Char) : Except Flaw Directive :=
  match Text.after? "@field ".toList line with
  | some rest => (field (Text.trim rest)).map .field
  | none =>
    match keyValue? line with
    | some (key, value) =>
      let v := String.ofList value
      if key = "type+".toList then .ok (.type v)
      else if key = "key".toList then .ok (.key v)
      else if key = "name".toList then .ok (.name v)
      else if key = "context".toList then .ok (.context v)
      else .error (.unknownKey (String.ofList key))
    | none =>
      match default? line with
      | some (id, value) => .ok (.default (String.ofList id) (String.ofList value))
      | none => .error (.unknownDirective (String.ofList line))

/-- The directives of header lines; the first line that is none decides the flaw. -/
def directives : List (List Char) → Except Flaw (List Directive)
  | [] => .ok []
  | line :: rest =>
    match directive line with
    | .error flaw => .error flaw
    | .ok d => (directives rest).map (d :: ·)

namespace Directive

/-- The key that a directive gives. -/
def key? : Directive → Option String
  | .key v => some v
  | _ => none

/-- The name that a directive gives. -/
def name? : Directive → Option String
  | .name v => some v
  | _ => none

/-- The context that a directive gives. -/
def context? : Directive → Option String
  | .context v => some v
  | _ => none

/-- The credential type that a directive gives. -/
def type? : Directive → Option String
  | .type v => some v
  | _ => none

/-- The field that a directive gives. -/
def field? : Directive → Option FieldSpec
  | .field f => some f
  | _ => none

/-- The default that a directive gives. -/
def default? : Directive → Option (String × Json)
  | .default id v => some (id, .string v)
  | _ => none

end Directive

/-! ### The whole text -/

/-- The subject of a credential made from fields alone: its id, every field, and the subject's DID
    if no field has that id. -/
def subject (fields : List FieldSpec) : Json.Object :=
  let members :=
    Json.Object.ofMembers (("id", slot "subjectDid") :: fields.map fun f => (f.id, slot f.id))
  if (members.get? "subjectDid").isSome then members
  else members.insert "subjectDid" (slot "subjectDid")

/-- The skeleton made from a header. -/
def generated (context : String) (types : List String) (fields : List FieldSpec) : Json.Object :=
  [("@context", .array [.string context]),
    ("type", .array ((("VerifiableCredential" :: types)).map .string)),
    ("issuer", slot "org.did"),
    ("credentialSubject", .object (subject fields)),
    ("issuanceDate", slot "now"),
    ("jti", slot "uuid")]

/-- The template that directives and a body describe. The last key, name and context count; the name
    falls back to the key. -/
def assemble (ds : List Directive) (body : List Char) : Except Flaw Template :=
  match (ds.filterMap Directive.key?).getLast? with
  | none => .error .directivesLackKey
  | some key =>
    let name := ((ds.filterMap Directive.name?).getLast?).getD key
    let context := ((ds.filterMap Directive.context?).getLast?).getD defaultContext
    let fields := ds.filterMap Directive.field?
    let source : Body :=
      if body = [] then .json (.object (generated context (ds.filterMap Directive.type?) fields))
      else .text (String.ofList body)
    (Template.build key name (some context) fields source).map fun t =>
      t.withDefaults (Json.Object.ofMembers (ds.filterMap Directive.default?))

/-- The template that a text describes. -/
def template (text : List Char) : Except Flaw Template :=
  match directives (headerLines text) with
  | .error flaw => .error flaw
  | .ok ds => assemble ds (body text)

end Issuance.Wpt

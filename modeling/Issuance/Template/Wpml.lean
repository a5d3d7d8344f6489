import Issuance.Event
import Issuance.Template.Basic
import Issuance.Text.Lines
import Issuance.Text.Split

/-! # WPML, the sectioned text format

    A WPML text has a header of `@key: value` lines, a `[fields]` section with one field a line, and
    a `[body]` section with the skeleton:

        @key: studentCard
        @name: Student Card

        [fields]
        status:select:Status:required,values=active|inactive

        [body]
        { "credentialSubject": { "status": "…" } }

    A line that starts with a marker opens its section, also again; blank lines belong to none.
    Header and field lines that make no sense are passed over with a log record, and so is a field
    whose id came before; the key, the name and a body have to be there. -/

namespace Issuance.Wpml

/-- Where a line stands. -/
inductive Part where
  | header
  | fields
  | body
  deriving DecidableEq, Repr

/-- A line with its number in the text, counted from one, and the part it stands in. -/
structure Line where
  part : Part
  number : Nat
  text : List Char
  deriving DecidableEq, Repr

/-- The line that opens the fields, or starts like it. -/
def fieldsMarker : List Char := "[fields]".toList

/-- The line that opens the body, or starts like it. -/
def bodyMarker : List Char := "[body]".toList

/-- The lines that stand in some part, from a line number and a part on. -/
def placeFrom : Part → Nat → List (List Char) → List Line
  | _, _, [] => []
  | part, number, line :: rest =>
    if Text.allBlank line then placeFrom part (number + 1) rest
    else if fieldsMarker.isPrefixOf line then placeFrom .fields (number + 1) rest
    else if bodyMarker.isPrefixOf line then placeFrom .body (number + 1) rest
    else ⟨part, number, line⟩ :: placeFrom part (number + 1) rest

/-- The lines of a text that stand in some part. -/
def place (text : List Char) : List Line := placeFrom .header 1 (Text.lines text)

/-- The lines that stand in one part. -/
def inPart (part : Part) (ls : List Line) : List Line := ls.filter fun l => l.part == part

/-! ### The header -/

/-- A name and a value, from a line like `@key: value`: the name stands before the first colon, the
    value must not be blank, and both are trimmed. -/
def readEntry (line : List Char) : Option (String × String) :=
  match line with
  | '@' :: rest =>
    match Text.cut ':' rest with
    | none => none
    | some (name, value) =>
      if Text.allBlank name || Text.allBlank value then none
      else some (String.ofList (Text.trim name), String.ofList (Text.trim value))
  | _ => none

/-- The value of the last entry with a name. -/
def lastValue? (name : String) (entries : List (String × String)) : Option String :=
  (entries.reverse.find? fun e => e.1 == name).map Prod.snd

/-- The record of a header line that looks like an entry and is none. -/
def headerEvent? (l : Line) : Option Event :=
  if l.text.head? == some '@' && (readEntry l.text).isNone then
    some (.malformedMeta l.number (String.ofList l.text))
  else none

/-! ### The fields -/

/-- Takes the choices from a modifier like `values=a|b`; other modifiers change nothing. -/
def modify (f : FieldSpec) (modifier : List Char) : FieldSpec :=
  match Text.splitOn '=' modifier with
  | [name, choices] =>
    if Text.trim name = "values".toList then f.withValues (Text.splitOn '|' choices) else f
  | _ => f

/-- Whether a text is the word `required` in letters of any case. -/
def saysRequired (s : List Char) : Bool := (Text.trim s).map Char.toLower == "required".toList

/-- A field, from a line like `id:type:Label:required,values=a|b`. The first three parts have to be
    there, and the id must not be blank. -/
def field? (line : List Char) : Option FieldSpec :=
  match Text.splitOn ',' line with
  | [] => none
  | primary :: modifiers =>
    match Text.splitOn ':' primary with
    | id :: type :: label :: rest =>
      if Text.allBlank id then none
      else
        some <|
          modifiers.foldl modify
            { id := String.ofList (Text.trim id)
              type := .ofName (String.ofList (Text.trim type))
              label := String.ofList (Text.trim label)
              required := rest.head?.any saysRequired }
    | _ => none

/-- What becomes of a line among the fields. -/
inductive Reading where
  | field (f : FieldSpec)
  | skipped (record : Event)

/-- What becomes of the lines among the fields, given the ids that came before them: the first line
    with an id makes its field. -/
def readFields (seen : List String) : List Line → List Reading
  | [] => []
  | l :: rest =>
    match field? l.text with
    | none => .skipped (.malformedField l.number (String.ofList l.text)) :: readFields seen rest
    | some f =>
      if f.id ∈ seen then .skipped (.repeatedField f.id l.number) :: readFields seen rest
      else .field f :: readFields (f.id :: seen) rest

/-- The field that a line became. -/
def Reading.field? : Reading → Option FieldSpec
  | .field f => some f
  | .skipped _ => none

/-- The record of a line that became none. -/
def Reading.record? : Reading → Option Event
  | .field _ => none
  | .skipped record => some record

/-! ### The whole text -/

/-- What becomes of the field lines of a text. -/
def readings (text : List Char) : List Reading := readFields [] (inPart .fields (place text))

/-- The entries of the header of a text. -/
def entries (text : List Char) : List (String × String) :=
  (inPart .header (place text)).filterMap fun l => readEntry l.text

/-- The body of a text: its lines one after the other, trimmed as a whole. -/
def body (text : List Char) : List Char :=
  Text.trim (Text.joinLines ((inPart .body (place text)).map Line.text))

/-- The records of what is passed over in a text. -/
def records (text : List Char) : List Event :=
  (inPart .header (place text)).filterMap headerEvent? ++ (readings text).filterMap Reading.record?

/-- The template that a text describes. -/
def template (text : List Char) : Except Flaw Template :=
  let header := entries text
  match lastValue? "key" header, lastValue? "name" header with
  | some key, some name =>
    let skeleton := body text
    if skeleton = [] then .error .sectionsLackBody
    else
      Template.build key name ((lastValue? "context" header).or (lastValue? "@context" header))
        ((readings text).filterMap Reading.field?) (.text (String.ofList skeleton))
  | _, _ => .error .sectionsLackIdentity

end Issuance.Wpml

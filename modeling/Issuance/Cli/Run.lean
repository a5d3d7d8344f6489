import Issuance.Catalog.Basic
import Issuance.Cli.Files
import Issuance.Cli.Invocation
import Issuance.Cli.LogFilter
import Issuance.Credential.Render
import Issuance.Prompt

/-! # Carrying out a command line

    A command reads what it needs, reports on the way what it does, and writes or prints its result
    last, so that one that fails has written nothing. What is done is a list of effects in order; a
    failure is reported in the log and by exit code 1. -/

namespace Issuance.Cli

open Placeholder (slot)

/-- What a command line is carried out in. -/
structure World where
  /-- The issuer's DID, if the environment names one. -/
  orgDid : Option String := none
  /-- The log filter, if the environment names one. -/
  logSpec : Option String := none
  files : FileSystem
  input : List UInt8 := []
  clock : Nat → Instant
  ids : Nat → String

/-- Something done, or the finding that the input ends where an answer is waited for. -/
inductive Effect where
  | log (e : Event)
  | say (u : Prompt.Utterance)
  | inputEnd
  | print (text : String)
  | write (path text : String)

/-- What was done, and the exit code. -/
structure Outcome where
  effects : List Effect
  exitCode : Nat

/-- Reports a record. -/
def log (e : Event) : Traced Effect Unit := .emit (.log e)

/-- Prints a line. -/
def printLine (text : String) : Traced Effect Unit := .emit (.print (text ++ "\n"))

/-- What the library does, as effects. -/
def ofLibrary {α : Type} (x : Traced Event α) : Traced Effect α := x.mapTrace .log

/-- The error of a file that cannot be read or written. -/
def onFile {α : Type} (x : Except IoFailure α) : Traced Effect α := .ofExcept (x.mapError .io)

/-- Writes a text to a file. -/
def writeFile (w : World) (path text : String) : Traced Effect Unit := do
  onFile (w.files.write path)
  .emit (.write path text)

/-- Loads the template from where it is said to be. -/
def loadTemplate (w : World) : TemplateSource → Traced Effect Template
  | .preset key => do
    log (.usingPreset key)
    let catalog ← ofLibrary Catalog.builtin
    .ofExcept (catalog.get key)
  | .file path =>
    if w.files.holds path then do
      log (.loadingTemplate path)
      let text ← onFile (w.files.read path)
      ofLibrary (Template.load (formatOf path) text.toList)
    else .fail (.templateNotFound path)

/-- The form in a file, which has to hold a JSON object. -/
def readForm (w : World) (path : String) : Traced Effect Json.Object := do
  let text ← onFile (w.files.read path)
  let v ← Traced.ofExcept (demand (Json.parse text.toList))
  match v with
  | .object members => pure members
  | _ => .fail (.io .formNotObject)

/-- Adds the fields given on the line to a form. -/
def addFields (form : Json.Object) : List (String × String) → Traced Effect Json.Object
  | [] => pure form
  | (id, value) :: rest => do
    log (.addingField id value)
    addFields (form.insert id (.string value)) rest

/-- The form of a rendering: the members of the file, if there is one, and the fields over them. -/
def buildForm (w : World) (path : Option String) (fields : List (String × String)) :
    Traced Effect Json.Object := do
  let base ←
    match path with
    | some path => readForm w path
    | none => pure []
  addFields base fields

/-- Renders a template, and writes the body of the credential to a file or prints it. -/
def renderTo (w : World) (t : Template) (orgDid : String) (form : Json.Object)
    (output : Option String) (escaping : Placeholder.Escaping) : Traced Effect Unit := do
  let renderer : Renderer := { clock := w.clock, ids := w.ids, escaping := escaping }
  let credential ← ofLibrary (renderer.render t ⟨⟨orgDid, []⟩, form⟩ {}).result
  let text := Json.spreadText (.object credential.body)
  match output with
  | some path => do
    writeFile w path text
    printLine ("✓ Credential created: " ++ path)
  | none => printLine text

/-- The effects of an interview. More input would only change what comes behind the end of the
    input. -/
def effectsOf (i : Prompt.Interview) : List Effect :=
  i.transcript.map .say ++
    match i.ending with
    | .endOfInput _ => [.inputEnd]
    | .answered _ | .notText => []

/-- Asks for the fields of a template. -/
def askFields (w : World) (t : Template) : Traced Effect Json.Object := do
  let interview := Prompt.run t w.input
  .emitAll (effectsOf interview)
  .ofExcept interview.ending.form

/-- A line of the list of presets: the key in a column of 24 characters, and the name. -/
def presetLine (t : Template) : String := Text.inColumn 24 t.key ++ " " ++ t.name

/-- Prints lines in order. -/
def printLines : List String → Traced Effect Unit
  | [] => pure ()
  | l :: rest => do
    printLine l
    printLines rest

/-- The example of the object format. -/
def exampleObject : Json :=
  .object
    [("meta", .object
        [("key", .string "studentCard"),
          ("name", .string "Student Card"),
          ("fields", .object
            [("subjectDid", .string "did!"), ("name", .string "text!"), ("dept", .string "text"),
              ("studentNo", .string "text!")])]),
      ("vc", .object
        [("@context", .array [.string credentialContext]),
          ("type", .array [.string "VerifiableCredential", .string "StudentCard"]),
          ("credentialSubject", .object
            [("id", slot "subjectDid"), ("name", slot "name"), ("dept", slot "dept"),
              ("studentNo", slot "studentNo")]),
          ("issuanceDate", slot "now")])]

/-- Carries out a command. -/
def carryOut (w : World) : Command → Traced Effect Unit
  | .render source orgDid fields form output escape => do
    let t ← loadTemplate w source
    let form ← buildForm w form fields
    renderTo w t orgDid form output (if escape then .jsonString else .verbatim)
  | .fill source orgDid output => do
    let t ← loadTemplate w source
    let form ← askFields w t
    renderTo w t orgDid form output .verbatim
  | .fields source => do
    let t ← loadTemplate w source
    log (.describing t.key t.skeleton.kindName t.fields.length)
    printLine (Json.spreadText t.toSummary.toJson)
  | .presets => do
    let catalog ← ofLibrary Catalog.builtin
    printLines (catalog.templates.map presetLine)
  | .example output object => do
    log .generatingExample
    writeFile w output (if object then Json.spreadText exampleObject else Preset.studentCard)
    printLine ("✓ Example template created: " ++ output)

/-- The filter for log records: that of the environment, else by whether to report in detail. -/
def logFilter (w : World) (verbose : Bool) : LogFilter :=
  LogFilter.ofText (w.logSpec.getD (if verbose then "debug" else "info")).toList

/-- The effects that are seen: records that the filter hides are not. -/
def visible (f : LogFilter) (effects : List Effect) : List Effect :=
  effects.filter fun
    | .log e => f.shows e
    | _ => true

/-- What is seen of an error. -/
def Invocation.failure (i : Invocation) (w : World) (e : Error) : List Effect :=
  visible (logFilter w i.verbose) [.log (.failed e)]

/-- Carries out an invocation. -/
def Invocation.run (i : Invocation) (w : World) : Outcome :=
  let x := carryOut w i.command
  let effects := visible (logFilter w i.verbose) x.trace
  match x.outcome with
  | .ok () => ⟨effects, 0⟩
  | .error e => ⟨effects ++ i.failure w e, 1⟩

/-- Carries out a command line. -/
def run (w : World) (args : List String) : Outcome :=
  match Invocation.ofArguments w.orgDid args with
  | .error stop => ⟨[], stop.exitCode⟩
  | .ok i => i.run w

/-- The text that an effect puts on the output. -/
def Effect.output : Effect → String
  | .print text => text
  | .say u => u.text
  | .log _ | .inputEnd | .write .. => ""

namespace Outcome

/-- Everything printed and said. -/
def output (o : Outcome) : String := String.join (o.effects.map Effect.output)

/-- The lines of the log. -/
def logLines (o : Outcome) : List String :=
  o.effects.filterMap fun
    | .log e => some e.line
    | _ => none

/-- The files written, in order. -/
def writes (o : Outcome) : List (String × String) :=
  o.effects.filterMap fun
    | .write path text => some (path, text)
    | _ => none

/-- What is left to do behind a number of effects, up to the end of the input if that is met. -/
def next (o : Outcome) (count : Nat) : List Effect :=
  (o.effects.drop count).takeWhile fun
    | .inputEnd => false
    | _ => true

/-- What is left to do behind the end of the input, if that is met behind a number of effects. -/
def afterInput? (o : Outcome) (count : Nat) : Option (List Effect) :=
  match (o.effects.drop count).drop (o.next count).length with
  | _ :: rest => some rest
  | [] => none

/-- A folder after everything is written. -/
def folderAfter (o : Outcome) (f : Folder) : Folder :=
  o.writes.foldl (fun f e => f.write e.1 e.2) f

end Outcome
end Issuance.Cli

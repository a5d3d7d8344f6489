import Issuance.Cli.Options

/-! # Invocations

    What a command line asks for. A template comes from a file or from the presets, never from both;
    the issuer's DID is given on the line or in the environment. -/

namespace Issuance.Cli

/-- Where a template comes from. -/
inductive TemplateSource where
  | file (path : String)
  | preset (key : String)
  deriving DecidableEq, Repr

/-- What is to be done. -/
inductive Command where
  | render (source : TemplateSource) (orgDid : String) (fields : List (String × String))
      (form output : Option String) (escape : Bool)
  | fill (source : TemplateSource) (orgDid : String) (output : Option String)
  | fields (source : TemplateSource)
  | presets
  | example (output : String) (object : Bool)
  deriving DecidableEq, Repr

/-- The path of a template file. -/
def TemplateSource.paths : TemplateSource → List String
  | .file path => [path]
  | .preset _ => []

/-- The paths of the files that a command reads. -/
def Command.paths : Command → List String
  | .render source _ _ form _ _ => source.paths ++ form.toList
  | .fill source _ _ => source.paths
  | .fields source => source.paths
  | .presets | .example _ _ => []

/-- A command, and whether to report in detail. -/
structure Invocation where
  command : Command
  verbose : Bool
  deriving DecidableEq, Repr

/-- A name and a value, parted by the first equals sign. -/
def pair? (s : List Char) : Option (String × String) :=
  (Text.cut '=' s).map fun p => (String.ofList p.1, String.ofList p.2)

/-- The wording for a text without an equals sign. -/
def pairMessage (s : String) : String := "invalid KEY=value: no `=` found in `" ++ s ++ "`"

/-! ### The options of the commands -/

/-- Options that every command takes. -/
def commonOptions : List OptionSpec :=
  [{ long := "verbose", short := some 'v', arity := .flag },
    { long := "help", short := some 'h', arity := .information }]

/-- Options that may stand before the command. -/
def leadingOptions : List OptionSpec :=
  { long := "version", short := some 'V', arity := .information } :: commonOptions

/-- Options for where a template comes from. -/
def sourceOptions : List OptionSpec :=
  [{ long := "template", short := some 't', arity := .value },
    { long := "preset", short := some 'p', arity := .value }]

/-- The option for the issuer's DID. -/
def orgOption : OptionSpec := { long := "org-did", arity := .value }

/-- The option for the file to write. -/
def outputOption : OptionSpec := { long := "output", short := some 'o', arity := .value }

/-- The options of rendering. -/
def renderOptions : List OptionSpec :=
  commonOptions ++ sourceOptions ++
    [orgOption, outputOption,
      { long := "field", short := some 'f', arity := .values
        accepts := fun s => (pair? s).isSome },
      { long := "form", arity := .value },
      { long := "escape", arity := .flag }]

/-- The options of filling in. -/
def fillOptions : List OptionSpec := commonOptions ++ sourceOptions ++ [orgOption, outputOption]

/-- The options of describing a template. -/
def fieldsOptions : List OptionSpec := commonOptions ++ sourceOptions

/-- The options of writing an example. -/
def exampleOptions : List OptionSpec :=
  commonOptions ++ [outputOption, { long := "object", arity := .flag }]

/-- The file that an example goes to unless another is named. -/
def exampleFile : String := "student_card.wpml"

/-! ### From options to commands -/

/-- Where the template comes from: exactly one of file and preset has to be given. -/
def sourceOf (given : List Given) : Except Stop TemplateSource :=
  match valueOf? "template" given, valueOf? "preset" given with
  | some path, none => .ok (.file path)
  | none, some key => .ok (.preset key)
  | _, _ => .error .misuse

/-- The issuer's DID: from the line, else from the environment. -/
def orgDidOf (environment : Option String) (given : List Given) : Except Stop String :=
  match (valueOf? "org-did" given).or environment with
  | some did => .ok did
  | none => .error .misuse

/-- The names and values of fields, in the order given. -/
def pairsOf (given : List Given) : List (String × String) :=
  (given.filter fun g => g.long == "field").filterMap fun g => pair? g.value

/-- Reads the options of a command into the command. -/
def readCommand (specs : List OptionSpec) (args : List (List Char)) (verbose : Bool)
    (build : List Given → Except Stop Command) : Except Stop Invocation :=
  match readOptions specs {} args with
  | .error stop => .error stop
  | .ok given =>
    (build given).map fun command => ⟨command, verbose || wasGiven "verbose" given⟩

/-- Reads what follows the name of a command. `orgDid` is the DID that the environment gives. -/
def readNamed (orgDid : Option String) (verbose : Bool) (name : String) (args : List (List Char)) :
    Except Stop Invocation :=
  if name = "render" then
    readCommand renderOptions args verbose fun given => do
      let source ← sourceOf given
      let did ← orgDidOf orgDid given
      pure (.render source did (pairsOf given) (valueOf? "form" given) (valueOf? "output" given)
        (wasGiven "escape" given))
  else if name = "fill" then
    readCommand fillOptions args verbose fun given => do
      let source ← sourceOf given
      let did ← orgDidOf orgDid given
      pure (.fill source did (valueOf? "output" given))
  else if name = "fields" then
    readCommand fieldsOptions args verbose fun given => (sourceOf given).map .fields
  else if name = "presets" then
    readCommand commonOptions args verbose fun _ => .ok .presets
  else if name = "example" then
    readCommand exampleOptions args verbose fun given =>
      .ok (.example ((valueOf? "output" given).getD exampleFile) (wasGiven "object" given))
  else .error .misuse

/-- The names that help can be asked for. -/
def helpTopics : List String := ["render", "fill", "fields", "presets", "example", "help"]

/-- Reads what follows the word `help`: nothing, or one name. -/
def readHelp (args : List (List Char)) : Stop :=
  match args with
  | [] => .information
  | [topic] => if String.ofList topic ∈ helpTopics then .information else .misuse
  | _ => .misuse

/-- Reads a command line; options may stand before the command. -/
def readLine (orgDid : Option String) : List Given → List (List Char) → Except Stop Invocation
  | _, [] => .error .misuse
  | given, arg :: rest =>
    match Argument.ofText arg with
    | .plain name =>
      if name = "help".toList then .error (readHelp rest)
      else readNamed orgDid (wasGiven "verbose" given) (String.ofList name) rest
    | _ =>
      match readArgument leadingOptions ⟨given, none⟩ arg with
      | .error stop => .error stop
      | .ok p => readLine orgDid p.given rest

/-- What a command line asks for. -/
def Invocation.ofArguments (orgDid : Option String) (args : List String) :
    Except Stop Invocation :=
  readLine orgDid [] (args.map String.toList)

end Issuance.Cli

import Issuance.Template.Basic

/-! # Asking for the fields of a template

    The fields are asked for in order, one line each. A required field is asked for again while the
    answer is blank, and a field with choices while the answer is none of them; a blank answer
    leaves an optional field out. When the input ends, the answers so far are the form. No more is
    read than the lines that were asked for. -/

namespace Issuance.Prompt

/-- Something said to the person who answers. -/
inductive Utterance where
  | heading (name key : String)
  | question (f : FieldSpec)
  | mustNotBeBlank (label : String)
  | allowed (choices : List String)
  deriving DecidableEq, Repr

/-- The question for a field: its label, id and type, its choices, and a star if it is required. -/
def questionText (f : FieldSpec) : String :=
  f.label ++ " (" ++ f.id ++ ", " ++ f.type.name ++ ")" ++
    (match f.values with
    | none => ""
    | some choices => " [" ++ String.intercalate "|" choices ++ "]") ++
    (if f.required then " *" else "") ++ ": "

/-- The wording of an utterance. -/
def Utterance.text : Utterance → String
  | .heading name key =>
    "📝 " ++ name ++ " (" ++ key ++ ")\n" ++ String.ofList (List.replicate 53 '━') ++ "\n"
  | .question f => questionText f
  | .mustNotBeBlank label => "❌ " ++ label ++ " darf nicht leer sein!\n"
  | .allowed choices => "⚠️  Erlaubt: " ++ String.intercalate ", " choices ++ "\n"

/-- What an answer comes to: the field's value, or none for a field left out; or a complaint, after
    which the field is asked for again. -/
inductive Verdict where
  | taken (value : Option String)
  | refused (complaint : Utterance)
  deriving DecidableEq, Repr

/-- What a trimmed answer to the question for a field comes to. -/
def judge (f : FieldSpec) (answer : String) : Verdict :=
  if answer = "" then if f.required then .refused (.mustNotBeBlank f.label) else .taken none
  else
    match f.values with
    | some choices => if answer ∈ choices then .taken (some answer) else .refused (.allowed choices)
    | none => .taken (some answer)

/-- The lines of an input, each with the line feed that ends it. -/
def byteLines : List UInt8 → List (List UInt8)
  | [] => []
  | b :: rest =>
    if b = 10 then [b] :: byteLines rest
    else
      match byteLines rest with
      | [] => [[b]]
      | line :: ls => (b :: line) :: ls

/-- The answer in a line, if the line is valid UTF-8. -/
def answer? (line : List UInt8) : Option String :=
  (String.fromUTF8? ⟨line.toArray⟩).map fun s => String.ofList (Text.trim s.toList)

/-- How an interview ends. -/
inductive Ending where
  | answered (form : Json.Object)
  | endOfInput (form : Json.Object)
  | notText

/-- The form that an interview ends with. -/
def Ending.form : Ending → Except Error Json.Object
  | .answered form => .ok form
  | .endOfInput form => .ok form
  | .notText => .error (.io .invalidUtf8)

/-- An interview: what was said, how many bytes were read, and how it ended. -/
structure Interview where
  transcript : List Utterance
  consumed : Nat
  ending : Ending

/-- An interview that starts by saying some things and reading some bytes, and goes on. -/
def Interview.behind (said : List Utterance) (bytes : Nat) (i : Interview) : Interview :=
  ⟨said ++ i.transcript, bytes + i.consumed, i.ending⟩

/-- A form with an answer, if there is one. -/
def record (f : FieldSpec) (form : Json.Object) : Option String → Json.Object
  | none => form
  | some value => form.insert f.id (.string value)

/-- Asks for fields, with the lines to come as answers. -/
def ask : List FieldSpec → Json.Object → List (List UInt8) → Interview
  | [], form, _ => ⟨[], 0, .answered form⟩
  | f :: _, form, [] => ⟨[.question f], 0, .endOfInput form⟩
  | f :: fields, form, line :: ls =>
    match answer? line with
    | none => ⟨[.question f], line.length, .notText⟩
    | some answer =>
      match judge f answer with
      | .taken value => (ask fields (record f form value) ls).behind [.question f] line.length
      | .refused complaint =>
        (ask (f :: fields) form ls).behind [.question f, complaint] line.length

/-- Asks for the fields of a template, with an input of bytes as answers. -/
def run (t : Template) (input : List UInt8) : Interview :=
  (ask t.fields [] (byteLines input)).behind [.heading t.name t.key] 0

/-- Everything said in an interview. -/
def Interview.output (i : Interview) : String := String.join (i.transcript.map Utterance.text)

end Issuance.Prompt

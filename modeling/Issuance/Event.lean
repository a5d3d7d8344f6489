import Issuance.Error
import Issuance.Instant
import Issuance.Text.Blank

/-! # Log records

    What the program reports while it works. A record has a level, the name of the part of the
    program that reports it, by which records are selected, and a wording. -/

namespace Issuance

/-- How much a record matters. -/
inductive Level where
  | error
  | warn
  | info
  | debug
  | trace
  deriving DecidableEq, Repr

/-- The place of a level in the order from what matters most to what matters least. -/
def Level.rank : Level → Nat
  | .error => 1
  | .warn => 2
  | .info => 3
  | .debug => 4
  | .trace => 5

/-- The name of a level. -/
def Level.name : Level → String
  | .error => "ERROR"
  | .warn => "WARN"
  | .info => "INFO"
  | .debug => "DEBUG"
  | .trace => "TRACE"

/-- A log record. -/
inductive Event where
  | malformedMeta (line : Nat) (text : String)
  | malformedField (line : Nat) (text : String)
  | repeatedField (id : String) (line : Nat)
  | noValue (path : String)
  | rendering (key : String)
  | rendered (key : String)
  | usingPreset (key : String)
  | loadingTemplate (path : String)
  | addingField (id value : String)
  | describing (key format : String) (fields : Nat)
  | generatingExample
  | failed (error : Error)

namespace Event

/-- The level of a record. -/
def level : Event → Level
  | .malformedMeta .. | .malformedField .. | .repeatedField .. | .noValue .. => .debug
  | .failed .. => .error
  | _ => .info

/-- The name of the part of the program that reports a record. -/
def target : Event → String
  | .malformedMeta .. | .malformedField .. | .repeatedField .. => "credgen::template::text"
  | .noValue .. => "credgen::render::replacer"
  | .rendering .. | .rendered .. => "credgen::render"
  | _ => "credgen"

/-- The wording of a record. -/
def message : Event → String
  | .malformedMeta line text =>
    "Skipping malformed meta line " ++ Json.numeral line ++ ": " ++ text
  | .malformedField line text =>
    "Skipping malformed field line " ++ Json.numeral line ++ ": " ++ text
  | .repeatedField id line =>
    "Skipping repeated field '" ++ id ++ "' on line " ++ Json.numeral line
  | .noValue path => r"Placeholder '{{" ++ path ++ r"}}' has no value, using empty string"
  | .rendering key => "Rendering template '" ++ key ++ "'"
  | .rendered key => "Rendered template '" ++ key ++ "'"
  | .usingPreset key => "Using preset: " ++ key
  | .loadingTemplate path => "Loading template: " ++ path
  | .addingField id value => "Adding field: " ++ id ++ " = " ++ value
  | .describing key format fields =>
    "Template '" ++ key ++ "' renders from a " ++ format ++ " body with " ++
      Json.numeral fields ++ " fields"
  | .generatingExample => "Generating example template"
  | .failed error => "Error: " ++ error.message

/-- A record as one line: its level and its wording. -/
def line (e : Event) : String := e.level.name ++ " " ++ e.message

/-- A record as it stands in the log: the time, the level in a column of five letters, the reporting
    part of the program, and the wording. -/
def entry (t : Instant) (e : Event) : String :=
  "[" ++ String.ofList t.text ++ " " ++ Text.inColumn 5 e.level.name ++ " " ++ e.target ++ "] " ++
    e.message

end Event
end Issuance

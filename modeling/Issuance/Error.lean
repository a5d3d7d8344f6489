import Issuance.Json.Basic
import Issuance.Json.Fault

/-! # Errors

    Everything that can stop the program, by cause. The wording of each is in one function per type,
    so that theorems can speak of causes and the text stands in one place. -/

namespace Issuance

/-- Why a template is refused. -/
inductive Flaw where
  | missingKey
  | missingName
  | emptyBody
  | bodyNotObject
  | repeatedField (id : String)
  | sectionsLackIdentity
  | sectionsLackBody
  | objectLacksCredential
  | directivesLackKey
  | unknownKey (key : String)
  | unknownDirective (line : String)
  | malformedField (text : String)
  deriving DecidableEq, Repr

/-- The wording of a flaw. -/
def Flaw.message : Flaw → String
  | .missingKey => "missing key"
  | .missingName => "missing name"
  | .emptyBody => "empty body"
  | .bodyNotObject => "body must be a JSON object"
  | .repeatedField id => "duplicate field id '" ++ id ++ "'"
  | .sectionsLackIdentity => "WPML: @key and @name are required"
  | .sectionsLackBody => "WPML: [body] must not be empty"
  | .objectLacksCredential => "missing 'vc' object"
  | .directivesLackKey => "WPT: @key missing"
  | .unknownKey key => "WPT: unknown @ key: " ++ key
  | .unknownDirective line => "WPT: unknown directive: " ++ line
  | .malformedField text => "WPT: malformed @field line: " ++ text

/-- Why a file or a stream cannot be read or written. -/
inductive IoFailure where
  | notFound
  | isDirectory
  | notDirectory
  | nameTooLong
  | invalidUtf8
  | formNotObject
  | other (message : String)
  deriving DecidableEq, Repr

/-- The wording of a failure. -/
def IoFailure.message : IoFailure → String
  | .notFound => "No such file or directory (os error 2)"
  | .isDirectory => "Is a directory (os error 21)"
  | .notDirectory => "Not a directory (os error 20)"
  | .nameTooLong => "File name too long (os error 36)"
  | .invalidUtf8 => "stream did not contain valid UTF-8"
  | .formNotObject => "Expected top-level JSON object in form file"
  | .other message => message

/-- What can stop the program. -/
inductive Error where
  | templateInvalid (flaw : Flaw)
  | missingRequiredField (id : String)
  | renderFailure (diagnostic : Json.Diagnostic)
  | bodyNotObject (body : Json)
  | templateNotFound (path : String)
  | presetNotFound (key : String)
  | duplicateKey (key : String)
  | io (failure : IoFailure)
  | serialization (diagnostic : Json.Diagnostic)

/-- The wording of an error. -/
def Error.message : Error → String
  | .templateInvalid flaw => "Template invalid: " ++ flaw.message
  | .missingRequiredField id => "Missing required field: " ++ id
  | .renderFailure d =>
    "Template body is not valid JSON after rendering (line " ++
      Json.numeral d.place.line ++ ", column " ++
      Json.numeral d.place.column ++ "): " ++ d.message
  | .bodyNotObject body => "Rendered body must be a JSON object, got " ++ body.kindName
  | .templateNotFound path => "Template file not found: " ++ path
  | .presetNotFound key => "Preset '" ++ key ++ "' not found"
  | .duplicateKey key => "Duplicate template key: " ++ key
  | .io failure => "IO error: " ++ failure.message
  | .serialization d => "Serialization error: " ++ d.message

end Issuance

import Issuance.Json.Decimal
import Issuance.Text.Quoted

/-! # What is wrong with a JSON text

    A fault names its reason and says how many bytes of the text were still unread when it was
    noticed. The place in the text, a line from one and a column in bytes, follows from that count
    and the text, and is worked out once, for the diagnostic. -/

namespace Issuance.Json

/-- What stands where something else was expected. -/
inductive Found where
  | null
  | bool (value : Bool)
  | whole (value : Int)
  | float (text : List Char)
  | string (value : String)
  | array
  | object

/-- The name of what was found. -/
def Found.name : Found → String
  | .null => "null"
  | .bool b => "boolean `" ++ (if b then "true" else "false") ++ "`"
  | .whole n => "integer `" ++ String.ofList (integerText n) ++ "`"
  | .float s => "floating point `" ++ String.ofList s ++ "`"
  | .string s => "string " ++ Text.quoted s
  | .array => "sequence"
  | .object => "map"

/-- Why a JSON text is refused. -/
inductive Reason where
  | endInList
  | endInObject
  | endInString
  | endInValue
  | expectedColon
  | expectedListEnd
  | expectedObjectEnd
  | expectedKeyword
  | expectedValue
  | invalidEscape
  | invalidNumber
  | numberOutOfRange
  | nameNotString
  | controlCharacter
  | loneSurrogate
  | endInHexEscape
  | trailingComma
  | trailingCharacters
  | tooDeep
  | wrongType (found : Found) (expected : String)
  | missingMember (name : String)
  | repeatedMember (name : String)
  | wrongLength (length : Nat) (expected : String)

/-- The wording of a reason. -/
def Reason.message : Reason → String
  | .endInList => "EOF while parsing a list"
  | .endInObject => "EOF while parsing an object"
  | .endInString => "EOF while parsing a string"
  | .endInValue => "EOF while parsing a value"
  | .expectedColon => "expected `:`"
  | .expectedListEnd => "expected `,` or `]`"
  | .expectedObjectEnd => r"expected `,` or `}`"
  | .expectedKeyword => "expected ident"
  | .expectedValue => "expected value"
  | .invalidEscape => "invalid escape"
  | .invalidNumber => "invalid number"
  | .numberOutOfRange => "number out of range"
  | .nameNotString => "key must be a string"
  | .controlCharacter => "control character (\\u0000-\\u001F) found while parsing a string"
  | .loneSurrogate => "lone leading surrogate in hex escape"
  | .endInHexEscape => "unexpected end of hex escape"
  | .trailingComma => "trailing comma"
  | .trailingCharacters => "trailing characters"
  | .tooDeep => "recursion limit exceeded"
  | .wrongType found expected => "invalid type: " ++ found.name ++ ", expected " ++ expected
  | .missingMember name => "missing field `" ++ name ++ "`"
  | .repeatedMember name => "duplicate field `" ++ name ++ "`"
  | .wrongLength length expected =>
    "invalid length " ++ numeral length ++ ", expected " ++ expected

/-- A reason and the number of bytes that were still unread. -/
structure Fault where
  reason : Reason
  unread : Nat

/-- The bytes that a text takes in UTF-8. -/
def byteCount : List Char → Nat
  | [] => 0
  | c :: rest => c.utf8Size + byteCount rest

/-- A fault noticed before the rest of the text. -/
def Fault.before (reason : Reason) (rest : List Char) : Fault := ⟨reason, byteCount rest⟩

/-- A fault noticed on the first byte of the rest, or at the end if nothing is left. -/
def Fault.on (reason : Reason) (rest : List Char) : Fault := ⟨reason, byteCount rest - 1⟩

/-- A place in a text: a line counted from one, and the bytes before it on that line. -/
structure Position where
  line : Nat
  column : Nat
  deriving DecidableEq, Repr

/-- The place behind a character. -/
def Position.after (p : Position) (c : Char) : Position :=
  if c = '\n' then ⟨p.line + 1, 0⟩ else ⟨p.line, p.column + c.utf8Size⟩

/-- The place so many bytes further on in a text. -/
def Position.advance (p : Position) : Nat → List Char → Position
  | 0, _ => p
  | _, [] => p
  | n, c :: rest =>
    if c.utf8Size ≤ n then (p.after c).advance (n - c.utf8Size) rest else ⟨p.line, p.column + n⟩

/-- A reason and its place. -/
structure Diagnostic where
  reason : Reason
  place : Position

/-- The wording of a diagnostic. -/
def Diagnostic.message (d : Diagnostic) : String :=
  d.reason.message ++ " at line " ++ numeral d.place.line ++ " column " ++
    numeral d.place.column

/-- The diagnostic of a fault in a text. -/
def Fault.locate (f : Fault) (text : List Char) : Diagnostic :=
  ⟨f.reason, Position.advance ⟨1, 0⟩ (byteCount text - f.unread) text⟩

end Issuance.Json

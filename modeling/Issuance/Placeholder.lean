import Issuance.Json.Printer
import Issuance.Text.Pieces
import Issuance.Text.Split

/-! # Placeholders

    A placeholder is a path between double braces. A path is a run of ASCII letters, digits, `_`,
    `.` and `-`; where the context may be asked for, one `$` may come first. Its dots part the names
    by which a value is looked up, member by member. Filling a text first puts the time and the id
    of the rendering in place of the two placeholders reserved for them, and then fills every other
    placeholder from left to right; values that are put in are not looked at again. -/

namespace Issuance.Placeholder

/-- The braces that open a placeholder. -/
def opening : List Char := ['{', '{']

/-- The braces that close a placeholder. -/
def closing : List Char := ['}', '}']

/-- The placeholder of a path. -/
def ofPath (path : List Char) : List Char := opening ++ path ++ closing

/-- The placeholder of a path, as a JSON string. -/
def slot (path : String) : Json := Json.ofText (ofPath path.toList)

/-- The characters of a path. -/
def isPathChar (c : Char) : Bool := c.isAlphanum || c == '_' || c == '.' || c == '-'

/-- Which placeholders there are: whether a `$` may come first. -/
structure Grammar where
  dollar : Bool := false
  deriving DecidableEq, Repr

/-- The path that starts here and is closed by braces. -/
def closedPath? (s : List Char) : Option (List Char) :=
  let path := s.takeWhile isPathChar
  if path ≠ [] ∧ closing.isPrefixOf (s.dropWhile isPathChar) then some path else none

/-- The path of the placeholder that starts here, with its `$` if it has one. -/
def path? (g : Grammar) (s : List Char) : Option (List Char) :=
  match Text.after? opening s with
  | none => none
  | some inner =>
    match inner with
    | '$' :: rest => if g.dollar then (closedPath? rest).map ('$' :: ·) else none
    | _ => closedPath? inner

/-- The placeholder that starts here. -/
def find (g : Grammar) (s : List Char) : Option (Text.Match (List Char)) :=
  (path? g s).map fun path => ⟨path.length + 4, path⟩

/-! ### Looking values up -/

/-- The value reached from a value by member names. -/
def descend : List (List Char) → Json → Option Json
  | [], v => some v
  | name :: rest, v => (v.member? (String.ofList name)).bind (descend rest)

/-- A value as it is put into a text: strings as they are, nothing for null, else compact JSON. -/
def shown : Json → List Char
  | .string s => s.toList
  | .null => []
  | v => v.compact

/-- The value under a path, if every name on the way is there. -/
def value? (scope : Json.Object) (path : List Char) : Option Json :=
  descend (Text.splitOn '.' path) (.object scope)

/-- The text under a path. -/
def lookup (scope : Json.Object) (path : List Char) : Option (List Char) :=
  (value? scope path).map shown

/-! ### Filling -/

/-- How values are put into a text: as they are, or escaped as the content of a JSON string. -/
inductive Escaping where
  | verbatim
  | jsonString
  deriving DecidableEq, Repr

/-- A text as it is put in. -/
def Escaping.apply : Escaping → List Char → List Char
  | .verbatim, s => s
  | .jsonString, s => Json.escape s

/-- What the two reserved placeholders stand for. -/
structure Builtins where
  now : List Char
  uuid : List Char
  deriving DecidableEq, Repr

/-- The placeholder of the time. -/
def nowPlaceholder : List Char := ofPath "now".toList

/-- The placeholder of the id. -/
def uuidPlaceholder : List Char := ofPath "uuid".toList

/-- The text with the two reserved placeholders filled. -/
def fillBuiltins (b : Builtins) (content : List Char) : List Char :=
  Text.replace uuidPlaceholder b.uuid (Text.replace nowPlaceholder b.now content)

/-- What a placeholder becomes: nothing if its path has no value. -/
def fill (escaping : Escaping) (scope : Json.Object) (path : List Char) : List Char :=
  match lookup scope path with
  | some text => escaping.apply text
  | none => []

/-- The text with all placeholders but the reserved ones filled. -/
def fillPaths (g : Grammar) (escaping : Escaping) (scope : Json.Object) (content : List Char) :
    List Char :=
  Text.fillPieces (fill escaping scope) (Text.pieces (find g) content)

/-- The paths of the placeholders in a text, in order. -/
def paths (g : Grammar) (content : List Char) : List (List Char) :=
  Text.hits (Text.pieces (find g) content)

/-- The text with all placeholders filled. -/
def fillAll (g : Grammar) (escaping : Escaping) (b : Builtins) (scope : Json.Object)
    (content : List Char) : List Char :=
  fillPaths g escaping scope (fillBuiltins b content)

/-- The paths without a value that filling comes across, in order. -/
def missing (g : Grammar) (b : Builtins) (scope : Json.Object) (content : List Char) :
    List (List Char) :=
  (paths g (fillBuiltins b content)).filter fun path => (value? scope path).isNone

end Issuance.Placeholder

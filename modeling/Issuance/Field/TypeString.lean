import Issuance.Field.Basic
import Issuance.Text.Split

/-! # Type strings

    The object format gives each field as one string: the name of its type, and an exclamation mark
    behind it if the field has to be filled in. -/

namespace Issuance.TypeString

/-- Whether a type string ends in the mark of a required field. -/
def isRequired (spec : String) : Bool := spec.toList.getLast? == some '!'

/-- The ids of the fields whose type string ends in the mark, in the order given. -/
def requiredIds (fields : List (String × String)) : List String :=
  (fields.filter fun f => isRequired f.2).map Prod.fst

/-- The type name in a type string: without the white space around it, without one mark at its end,
    and without the white space before that. -/
def typeName (spec : String) : List Char :=
  Text.trim (Text.dropFinal '!' (Text.trim spec.toList))

/-- The type in a type string; text if no name is left. -/
def fieldType (spec : String) : FieldType :=
  match typeName spec with
  | [] => .text
  | name => .ofName (String.ofList name)

end Issuance.TypeString

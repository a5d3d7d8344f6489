/-! # Cutting texts

    Separators, first occurrences and searches. All of them walk the text once from the left. -/

namespace Issuance.Text

/-- The pieces between the separators: one more than there are separators. -/
def splitOn (sep : Char) : List Char → List (List Char)
  | [] => [[]]
  | c :: rest =>
    if c = sep then [] :: splitOn sep rest
    else
      match splitOn sep rest with
      | [] => [[c]]
      | piece :: pieces => (c :: piece) :: pieces

/-- What stands before and after the first separator, if there is one. -/
def cut (sep : Char) : List Char → Option (List Char × List Char)
  | [] => none
  | c :: rest =>
    if c = sep then some ([], rest) else (cut sep rest).map fun p => (c :: p.1, p.2)

/-- The rest of a text after the mark it starts with. -/
def after? (mark s : List Char) : Option (List Char) := mark.isPrefixOf? s

/-- The first answer of `f` on the text, on the text without its first character, and so on. -/
def search {α : Type} (f : List Char → Option α) : List Char → Option α
  | [] => f []
  | c :: rest => (f (c :: rest)).or (search f rest)

/-- A text without the last character, when that is the mark given. -/
def dropFinal (mark : Char) (s : List Char) : List Char :=
  if s.getLast? = some mark then s.dropLast else s

/-- Texts with a separator between two of them. -/
def join (sep : List Char) (pieces : List (List Char)) : List Char := List.intercalate sep pieces

end Issuance.Text

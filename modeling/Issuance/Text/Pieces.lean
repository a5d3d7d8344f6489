/-! # Matches and the text between them

    A text is walked from left to right. Where a match starts the walk goes on behind it, so matches
    never overlap; every other character stands for itself. Filling writes the text that stands for
    each match in its place, and what is written is never looked at again. -/

namespace Issuance.Text

/-- A match at the head of a text: how many characters it spans and what it stands for. -/
structure Match (α : Type) where
  span : Nat
  value : α

/-- A piece of a text as a matcher sees it: a character on its own, or a match. -/
inductive Piece (α : Type) where
  | char (c : Char)
  | hit (value : α)

/-- The pieces of a text, after skipping as many characters as the last match still spans. -/
def piecesFrom {α : Type} (find : List Char → Option (Match α)) : Nat → List Char → List (Piece α)
  | _, [] => []
  | skip + 1, _ :: rest => piecesFrom find skip rest
  | 0, c :: rest =>
    match find (c :: rest) with
    | none => .char c :: piecesFrom find 0 rest
    | some m => .hit m.value :: piecesFrom find (m.span - 1) rest

/-- The pieces of a text, leftmost matches first. -/
def pieces {α : Type} (find : List Char → Option (Match α)) (s : List Char) : List (Piece α) :=
  piecesFrom find 0 s

/-- The text that pieces make when each match is written as `fill` says. -/
def fillPieces {α : Type} (fill : α → List Char) : List (Piece α) → List Char
  | [] => []
  | .char c :: rest => c :: fillPieces fill rest
  | .hit a :: rest => fill a ++ fillPieces fill rest

/-- The matches among pieces, in order. -/
def hits {α : Type} : List (Piece α) → List α
  | [] => []
  | .char _ :: rest => hits rest
  | .hit a :: rest => a :: hits rest

/-- A match of the literal text `old`. -/
def literal (old s : List Char) : Option (Match Unit) :=
  if old.isPrefixOf s then some ⟨old.length, ()⟩ else none

/-- Every occurrence of `old` replaced by `new`. -/
def replace (old new s : List Char) : List Char :=
  fillPieces (fun _ => new) (pieces (literal old) s)

end Issuance.Text

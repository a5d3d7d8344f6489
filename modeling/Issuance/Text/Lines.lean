/-! # Lines

    A text is cut at its line feeds. A carriage return right before a line feed belongs to the line
    end; one anywhere else, also at the very end of the text, belongs to the line. Nothing after the
    last line feed is no line. -/

namespace Issuance.Text

/-- A finished line, given back to front: without the carriage return that ended it. -/
def closeLine : List Char → List Char
  | '\r' :: back => back.reverse
  | back => back.reverse

/-- The lines of the text that starts with the reverse of `back` and goes on as given. -/
def linesFrom (back : List Char) : List Char → List (List Char)
  | [] => if back.isEmpty then [] else [back.reverse]
  | c :: rest =>
    if c = '\n' then closeLine back :: linesFrom [] rest else linesFrom (c :: back) rest

/-- The lines of a text. -/
def lines (s : List Char) : List (List Char) := linesFrom [] s

/-- Lines written one after the other, with a line feed between two of them. -/
def joinLines (ls : List (List Char)) : List Char := List.intercalate ['\n'] ls

end Issuance.Text

/-! # White space

    One notion of white space serves the whole library: the characters with the Unicode property
    `White_Space`. Template texts, answers at the prompt and type strings are trimmed by it, and a
    value counts as blank when it holds nothing else. -/

namespace Issuance.Text

/-- The characters that count as white space. -/
def isBlank (c : Char) : Bool :=
  let n := c.toNat
  (9 ≤ n && n ≤ 13) || n == 0x20 || n == 0x85 || n == 0xA0 || n == 0x1680 ||
    (0x2000 ≤ n && n ≤ 0x200A) || n == 0x2028 || n == 0x2029 || n == 0x202F || n == 0x205F ||
    n == 0x3000

/-- A text of white space only; the empty text is one. -/
def allBlank (s : List Char) : Bool := s.all isBlank

/-- A text without the white space it starts with. -/
def trimStart (s : List Char) : List Char := s.dropWhile isBlank

/-- A text without the white space it ends with. -/
def trimEnd (s : List Char) : List Char := (s.reverse.dropWhile isBlank).reverse

/-- A text without the white space around it. -/
def trim (s : List Char) : List Char := trimEnd (trimStart s)

/-- A text that trimming leaves as it is. -/
def Trimmed (s : List Char) : Prop := trim s = s

instance (s : List Char) : Decidable (Trimmed s) := inferInstanceAs (Decidable (trim s = s))

/-- The first run of characters that are not white space. -/
def firstWord (s : List Char) : List Char := (trimStart s).takeWhile (!isBlank ·)

/-- A text filled up with spaces to the width of a column. -/
def inColumn (width : Nat) (s : String) : String :=
  s ++ String.ofList (List.replicate (width - s.length) ' ')

end Issuance.Text

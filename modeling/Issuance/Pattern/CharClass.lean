import Issuance.Text.CaseFold
import Issuance.Text.Word

/-! # Classes of characters

    A class is written as a tree over runs of code points, so that what it was built from stays
    visible. `mem` says which characters are in it. -/

namespace Issuance

/-- A class of characters. -/
inductive CharClass where
  | runs (rs : List Text.Run)
  | word
  | blank
  | complement (c : CharClass)
  | anyCase (wide : Bool) (c : CharClass)
  | union (a b : CharClass)
  | intersection (a b : CharClass)
  | difference (a b : CharClass)
  | symmetricDifference (a b : CharClass)
  deriving DecidableEq, Repr

namespace CharClass

/-- The characters that differ from one in case only, and itself. Without a wide reading only ASCII
    letters have a case. -/
def caseVariants (wide : Bool) (c : Char) : List Char :=
  if wide then (Text.caseVariants c.toNat).map Char.ofNat else [c.toLower, c.toUpper]

/-- Whether a character is in a class. -/
def mem : CharClass → Char → Bool
  | .runs rs, c => rs.any fun r => r.holds c.toNat
  | .word, c => Text.isWordChar c
  | .blank, c => Text.isBlank c
  | .complement a, c => !a.mem c
  | .anyCase wide a, c => (caseVariants wide c).any a.mem
  | .union a b, c => a.mem c || b.mem c
  | .intersection a b, c => a.mem c && b.mem c
  | .difference a b, c => a.mem c && !b.mem c
  | .symmetricDifference a b, c => a.mem c != b.mem c

/-- The class that a list of runs stands for, written as text. -/
def ofText (s : String) : CharClass := .runs (Text.runsOfText s)

/-- The class without characters. -/
def empty : CharClass := .runs []

/-- The class of all characters. -/
def full : CharClass := .complement empty

/-- The class of one character. -/
def single (c : Char) : CharClass := .runs [⟨c.toNat, c.toNat, 1⟩]

/-- The class of the characters from one to another. -/
def between (first last : Char) : CharClass := .runs [⟨first.toNat, last.toNat, 1⟩]

/-- The union of classes. -/
def unions : List CharClass → CharClass
  | [] => empty
  | [a] => a
  | a :: rest => .union a (unions rest)

/-- The classes of ASCII characters that have a name between `[:` and `:]`. -/
def asciiClasses : List (String × String) :=
  [("alnum", "30-39 41-5A 61-7A"), ("alpha", "41-5A 61-7A"), ("ascii", "0-7F"), ("blank", "9 20"),
   ("cntrl", "0-1F 7F"), ("digit", "30-39"), ("graph", "21-7E"), ("lower", "61-7A"),
   ("print", "20-7E"), ("punct", "21-2F 3A-40 5B-60 7B-7E"), ("space", "9-D 20"),
   ("upper", "41-5A"), ("word", "30-39 41-5A 5F 61-7A"), ("xdigit", "30-39 41-46 61-66")]

/-- The class of ASCII characters with a name. -/
def ascii? (name : String) : Option CharClass := (asciiClasses.lookup name).map ofText

/-- Whether the way a class is built shows that it has every letter in all cases or in none. -/
def ignoresCase (wide : Bool) : CharClass → Bool
  | .runs _ | .word | .blank => false
  | .complement a => a.ignoresCase wide
  | .anyCase w _ => w == wide
  | .union a b | .intersection a b | .difference a b | .symmetricDifference a b =>
    a.ignoresCase wide && b.ignoresCase wide

/-- A class with the letters of any case added. What has them already stays as it is, and a union
    has them when both of its classes do. -/
def inAnyCase (wide : Bool) : CharClass → CharClass
  | .union a b => .union (a.inAnyCase wide) (b.inAnyCase wide)
  | a => if a.ignoresCase wide then a else .anyCase wide a

/-- About how many runs of ASCII characters, and how many others, the class falls into. What is not
    in a class has runs among the code points of every length. -/
def spread : CharClass → Nat × Nat
  | .runs rs =>
    (rs.foldl (fun n r => if r.first < 0x80 then n + 1 else n) 0,
     rs.foldl (fun n r =>
       if r.last < 0x80 then n else n + (if r.step = 1 then 1 else r.size)) 0)
  | .word => (4, Text.wordRanges.length)
  | .blank => (2, 8)
  | .complement a =>
    let n := a.spread
    (n.1 + 1, n.2 + 5)
  | .anyCase _ a =>
    let n := a.spread
    (2 * n.1, n.2)
  | .union a b | .intersection a b | .difference a b | .symmetricDifference a b =>
    let n := a.spread
    let m := b.spread
    (n.1 + m.1, n.2 + m.2)

end CharClass
end Issuance

import Issuance.Pattern.Flags
import Issuance.Pattern.Property

/-! # Escapes

    What a backslash makes of the characters behind it: a character, a class, or an anchor. -/

namespace Issuance.Pattern

/-- What an escape stands for. A character can be given as a single byte. -/
inductive Escape where
  | char (c : Char) (asByte : Bool)
  | cls (c : CharClass)
  | anchor (a : Anchor)

namespace Escape

/-- The characters that have a meaning of their own somewhere in a pattern. -/
def isMeta (c : Char) : Bool := r"\.+*?()|[]{}^$#&-~".toList.contains c

/-- Whether a character stands for itself behind a backslash. -/
def isPlain (c : Char) : Bool :=
  isMeta c || (c.toNat < 0x80 && !c.isAlphanum && c != '<' && c != '>')

/-- The character that a number stands for. -/
def charOf? (n : Nat) : Option Char := if n.isValidChar then some (Char.ofNat n) else none

/-- Reads some characters; what means nothing may stand before each. -/
def readCount (f : Flags) : Nat → List Char → Option (List Char × List Char)
  | 0, s => some ([], s)
  | n + 1, s =>
    match f.skip s with
    | [] => none
    | c :: rest => (readCount f n rest).map fun p => (c :: p.1, p.2)

/-- Reads up to a closing brace, without what means nothing, for as many characters as `fuel`. -/
def readBracedFrom (f : Flags) : Nat → List Char → Option (List Char × List Char)
  | 0, _ => none
  | fuel + 1, s =>
    match f.skip s with
    | [] => none
    | c :: rest =>
      if c = '}' then some ([], rest)
      else (readBracedFrom f fuel rest).map fun p => (c :: p.1, p.2)

/-- Reads up to a closing brace, without what means nothing. -/
def readBraced (f : Flags) (s : List Char) : Option (List Char × List Char) :=
  readBracedFrom f (s.length + 1) s

/-- Reads a character given by its code point: some digits, or any number of them in braces. Two
    digits after an `x` give a byte. -/
def readHex (f : Flags) (count : Nat) (s : List Char) : Option (Escape × List Char) := do
  match f.skip s with
  | '{' :: rest =>
    let (digits, rest) ← readBraced f rest
    let n ← Text.ofHex? digits
    return (.char (← charOf? n) false, rest)
  | s =>
    let (digits, rest) ← readCount f count s
    let n ← Text.ofHex? digits
    return (.char (← charOf? n) (count == 2), rest)

/-- What stands before and after the first occurrence of a mark. -/
def cutAt (mark : List Char) : List Char → Option (List Char × List Char)
  | [] => none
  | c :: rest =>
    match Text.after? mark (c :: rest) with
    | some behind => some ([], behind)
    | none => (cutAt mark rest).map fun p => (c :: p.1, p.2)

/-- The class that the text in the braces of a property stands for, and whether it is negated. -/
def property? (s : List Char) : Option (CharClass × Bool) :=
  match cutAt ['!', '='] s with
  | some (name, value) => (CharClass.valued? name value).map (·, true)
  | none =>
    match (cutAt [':'] s).or (cutAt ['='] s) with
    | some (name, value) => (CharClass.valued? name value).map (·, false)
    | none => (CharClass.named? s).map (·, false)

/-- Reads a property, in braces or of one letter. Properties need the reading by Unicode. -/
def readProperty (f : Flags) (negated : Bool) (s : List Char) : Option (Escape × List Char) := do
  guard f.wide
  let (name, rest) ←
    match f.skip s with
    | [] => none
    | '{' :: rest => readBraced f rest
    | c :: rest => if c = '\\' then none else some ([c], rest)
  let (found, differs) ← property? name
  return (.cls (← f.closed? (negated != differs) (f.folded found)), rest)

/-- The anchors that `\b` can name in braces. -/
def wordAnchors (f : Flags) : List (List Char × Anchor) :=
  [("start".toList, .wordStart f.wide), ("end".toList, .wordEnd f.wide),
   ("start-half".toList, .noWordBefore f.wide), ("end-half".toList, .noWordAfter f.wide)]

/-- Reads what may stand behind `\b`: the name of an anchor in braces. Braces that start otherwise
    are left alone. -/
def readWordEdge (f : Flags) (s : List Char) : Option (Escape × List Char) :=
  match s with
  | '{' :: rest =>
    match f.skip rest with
    | [] => none
    | c :: _ =>
      if c.isAlpha || c = '-' then do
        let (name, rest) ← readBraced f rest
        return (.anchor (← (wordAnchors f).lookup name), rest)
      else some (.anchor (.wordEdge f.wide), s)
  | _ => some (.anchor (.wordEdge f.wide), s)

/-- Reads an escape from behind its backslash. -/
def read (f : Flags) : List Char → Option (Escape × List Char)
  | [] => none
  | c :: rest =>
    let single (c : Char) : Option (Escape × List Char) := some (.char c false, rest)
    let spot (a : Anchor) : Option (Escape × List Char) := some (.anchor a, rest)
    let several (negated : Bool) (wide ascii : CharClass) : Option (Escape × List Char) :=
      (f.closed? negated (if f.wide then wide else ascii)).map fun a => (.cls a, rest)
    if isPlain c then single c
    else
      match c with
      | 'x' => readHex f 2 rest
      | 'u' => readHex f 4 rest
      | 'U' => readHex f 8 rest
      | 'p' => readProperty f false rest
      | 'P' => readProperty f true rest
      | 'd' => several false (.ofCategories "nd") (.ofText "30-39")
      | 'D' => several true (.ofCategories "nd") (.ofText "30-39")
      | 's' => several false .blank (.ofText "9-D 20")
      | 'S' => several true .blank (.ofText "9-D 20")
      | 'w' => several false .word (.ofText "30-39 41-5A 5F 61-7A")
      | 'W' => several true .word (.ofText "30-39 41-5A 5F 61-7A")
      | 'a' => single '\x07'
      | 'f' => single '\x0c'
      | 't' => single '\t'
      | 'n' => single '\n'
      | 'r' => single '\r'
      | 'v' => single '\x0b'
      | 'A' => spot .textStart
      | 'z' => spot .textEnd
      | 'b' => readWordEdge f rest
      | 'B' => spot (.noWordEdge f.wide)
      | '<' => spot (.wordStart f.wide)
      | '>' => spot (.wordEnd f.wide)
      | _ => none

end Escape
end Issuance.Pattern

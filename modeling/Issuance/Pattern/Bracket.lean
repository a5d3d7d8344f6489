import Issuance.Pattern.Escape

/-! # Bracketed classes

    A class in brackets is a union of characters, ranges, escapes, named ASCII classes and further
    brackets. `&&`, `--` and `~~` stand between two unions and apply from left to right. Brackets
    that are open are kept in a list, the innermost first. -/

namespace Issuance.Pattern

/-- An operation on the union before it and the one after it. -/
inductive ClassOperation where
  | intersection
  | difference
  | symmetricDifference

/-- The operation on two classes. -/
def ClassOperation.apply : ClassOperation → CharClass → CharClass → CharClass
  | .intersection => .intersection
  | .difference => .difference
  | .symmetricDifference => .symmetricDifference

/-- A class and how deep it is nested. -/
structure Nested where
  cls : CharClass
  depth : Nat

/-- An open bracket: whether it takes what is not in it, what stands before the last operation, and
    what stands behind it. -/
structure Bracket where
  negated : Bool
  before : Option (Nested × ClassOperation) := none
  items : List Nested := []

namespace Bracket

/-- A bracket with one more item. -/
def add (b : Bracket) (item : Nested) : Bracket := { b with items := b.items ++ [item] }

/-- A bracket with one more class that is not nested. -/
def addClass (b : Bracket) (cls : CharClass) : Bracket := b.add ⟨cls, 0⟩

/-- The union of the items. -/
def union (b : Bracket) : Nested :=
  let depth := (b.items.map Nested.depth).foldl max 0
  ⟨.unions (b.items.map Nested.cls), if b.items.length ≤ 1 then depth else depth + 1⟩

/-- What an open bracket holds: its union, or what the last operation makes of it. -/
def content (f : Flags) (b : Bracket) : Nested :=
  match b.before with
  | none => b.union
  | some (left, op) =>
    ⟨op.apply (f.folded left.cls) (f.folded b.union.cls), max left.depth b.union.depth + 1⟩

/-- A bracket behind an operation. -/
def operate (f : Flags) (op : ClassOperation) (b : Bracket) : Bracket :=
  ⟨b.negated, some (b.content f, op), []⟩

/-- The class of a bracket that is closed. -/
def close? (f : Flags) (b : Bracket) : Option Nested :=
  let content := b.content f
  (f.closed? b.negated (f.folded content.cls)).map (⟨·, content.depth + 1⟩)

/-- Goes on to the next character that means something; there must be one. -/
def next? (f : Flags) (s : List Char) : Option (Char × List Char) :=
  match f.skip s with
  | [] => none
  | c :: rest => some (c, rest)

/-- Reads the hyphens that a bracket starts with, for as many characters as `fuel`; each stands for
    itself. -/
def readHyphens (f : Flags) : Nat → Bracket → List Char → Option (Bracket × List Char)
  | 0, _, _ => none
  | fuel + 1, b, s => do
    let (c, rest) ← next? f s
    if c = '-' then readHyphens f fuel (b.addClass (.single '-')) rest else some (b, c :: rest)

/-- Reads the start of a bracket from behind its first character: a `^` that negates it, hyphens,
    and a closing bracket that stands for itself because nothing is before it. -/
def start? (f : Flags) (s : List Char) : Option (Bracket × List Char) := do
  let (c, rest) ← next? f s
  let (b, rest) ← readHyphens f (s.length + 1) ⟨c == '^', none, []⟩
    (if c = '^' then rest else c :: rest)
  match rest with
  | ']' :: behind =>
    some (if b.items.isEmpty then (b.addClass (.single ']'), behind) else (b, rest))
  | _ => some (b, rest)

/-- Reads a named ASCII class from behind its first character. -/
def readNamed (s : List Char) : Option (CharClass × List Char) := do
  let s ← Text.after? [':'] s
  let (negated, s) := ((Text.after? ['^'] s).map (true, ·)).getD (false, s)
  let (name, rest) ← Text.cut ':' s
  let rest ← Text.after? [']'] rest
  let cls ← CharClass.ascii? (String.ofList name)
  return (if negated then .complement cls else cls, rest)

/-- Reads a character or an escape. -/
def readItem (f : Flags) : List Char → Option (Escape × List Char)
  | [] => none
  | c :: rest => if c = '\\' then Escape.read f rest else some (.char c false, rest)

/-- The character that an item of a class stands for. -/
def char? (f : Flags) : Escape → Option Char
  | .char c _ => if f.wide || c.toNat < 0x80 then some c else none
  | _ => none

/-- The class that an item stands for. -/
def class? (f : Flags) : Escape → Option CharClass
  | .cls a => some a
  | item => (char? f item).map .single

/-- What comes next behind a hyphen, where a comment ends with the white space it starts with. -/
def peek (f : Flags) (s : List Char) : Option Char :=
  if f.spaced then
    match s.dropWhile Text.isBlank with
    | '#' :: rest => (rest.dropWhile Text.isBlank).head?
    | rest => rest.head?
  else s.head?

/-- Reads an item or a range. A hyphen before a closing bracket or another hyphen makes no range. -/
def readRange (f : Flags) (s : List Char) : Option (CharClass × List Char) := do
  let (first, rest) ← readItem f s
  let (c, behind) ← next? f rest
  if c ≠ '-' ∨ peek f behind = some ']' ∨ peek f behind = some '-' then
    return (← class? f first, c :: behind)
  else
    let (last, rest) ← readItem f (f.skip behind)
    let a ← char? f first
    let b ← char? f last
    if a ≤ b then some (.between a b, rest) else none

/-- The operation that a text starts with. -/
def operation? : List Char → Option ClassOperation
  | '&' :: '&' :: _ => some .intersection
  | '-' :: '-' :: _ => some .difference
  | '~' :: '~' :: _ => some .symmetricDifference
  | _ => none

/-- Reads on in an open bracket until the outermost one is closed, for as many characters as
    `fuel`. -/
def readFrom (f : Flags) : Nat → Bracket → List Bracket → List Char → Option (Nested × List Char)
  | 0, _, _, _ => none
  | fuel + 1, b, outer, s => do
    let (c, rest) ← next? f s
    if c = ']' then
      let closed ← b.close? f
      match outer with
      | [] => some (closed, rest)
      | o :: outer => readFrom f fuel (o.add closed) outer rest
    else if c = '[' then
      match readNamed rest with
      | some (cls, rest) => readFrom f fuel (b.addClass cls) outer rest
      | none =>
        let (inner, rest) ← start? f rest
        readFrom f fuel inner (b :: outer) rest
    else
      match operation? (c :: rest) with
      | some op => readFrom f fuel (b.operate f op) outer (rest.drop 1)
      | none =>
        let (cls, rest) ← readRange f (c :: rest)
        readFrom f fuel (b.addClass cls) outer rest

/-- Reads a class from behind its first bracket. -/
def read (f : Flags) (s : List Char) : Option (Nested × List Char) := do
  let (b, rest) ← start? f s
  readFrom f (s.length + 1) b [] rest

end Bracket
end Issuance.Pattern

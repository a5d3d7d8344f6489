import Issuance.Pattern.Bracket

/-! # Parts of a pattern

    A pattern is first cut into its parts: what matches a character or a spot, repetitions, bars,
    the two ends of groups, and flags. The flags hold up to the end of the group that they stand in,
    so each part comes with what it means under the flags at its place. -/

namespace Issuance.Pattern

/-- A part of a pattern. Brackets and repetitions come with what they add to depth and size. -/
inductive Token where
  | atom (p : Pattern) (depth : Nat)
  | times (least : Nat) (most : Option Nat)
  | bar
  | opening (captures : Bool)
  | closing
  | setting
  deriving DecidableEq, Repr

namespace Token

/-- Where the reading of parts has come to: the flags, those of the groups around the open one, and
    the names of groups. -/
structure Progress where
  flags : Flags := {}
  outer : List Flags := []
  names : List (List Char) := []

/-! ### Groups -/

/-- Whether a character can be in the name of a group. -/
def isNameChar (first : Bool) (c : Char) : Bool :=
  let letter := ((CharClass.trait? "alphabetic").getD .empty).mem c
  if first then c == '_' || letter
  else ['_', '.', '[', ']'].contains c || letter || (CharClass.ofCategories "n").mem c

/-- Reads the name of a group up to the mark behind it. -/
def readName (s : List Char) : Option (List Char × List Char) := do
  let (name, rest) ← Text.cut '>' s
  match name with
  | [] => none
  | c :: more =>
    if isNameChar true c && more.all (isNameChar false) then some (name, rest) else none

/-- Reads flags up to the colon or the parenthesis behind them; `seen` are those before, the last
    one first. A hyphen turns the flags behind it off. -/
def readFlags (f : Flags) (seen : List Char) : List Char → Option (Flags × List Char × List Char)
  | [] => none
  | c :: rest =>
    if c = ':' ∨ c = ')' then
      if seen.head? = some '-' then none else some (f, seen, c :: rest)
    else if seen.contains c then none
    else if c = '-' then readFlags f (c :: seen) rest
    else (f.set? c (!seen.contains '-')).bind fun f => readFlags f (c :: seen) rest

/-- Reads the start of a group, or flags in parentheses, from behind the parenthesis. What looks
    around without matching is refused. -/
def readOpening (p : Progress) (s : List Char) : Option (Token × Progress × List Char) := do
  let s := p.flags.skip s
  let inner := { p with outer := p.flags :: p.outer }
  let looks := ["?=".toList, "?!".toList, "?<=".toList, "?<!".toList]
  if looks.any fun mark => mark.isPrefixOf s then none
  else
    match (Text.after? "?P<".toList s).or (Text.after? "?<".toList s) with
    | some behind =>
      let (name, rest) ← readName behind
      if p.names.contains name then none
      else some (.opening true, { inner with names := name :: p.names }, rest)
    | none =>
      match Text.after? ['?'] s with
      | none => some (.opening true, inner, s)
      | some behind =>
        let (flags, seen, rest) ← readFlags p.flags [] behind
        if rest.head? = some ':' then
          some (.opening false, { inner with flags := flags }, rest.drop 1)
        else if seen = [] then none
        else some (.setting, { p with flags := flags }, rest.drop 1)

/-! ### Repetitions -/

/-- The greatest number that a repetition can give. -/
def countLimit : Nat := 4294967295

/-- Reads the digits of a number, for as many characters as `fuel`. -/
def readDigits (f : Flags) : Nat → List Char → List Char × List Char
  | 0, s => ([], s)
  | fuel + 1, s =>
    match s with
    | [] => ([], [])
    | c :: rest =>
      if c.isDigit then
        let (digits, rest) := readDigits f fuel (f.skip rest)
        (c :: digits, rest)
      else ([], s)

/-- Drops white space and, behind each piece of it, what means nothing. -/
def dropBlanks (f : Flags) : Nat → List Char → List Char
  | 0, s => s
  | fuel + 1, s =>
    match s with
    | [] => []
    | c :: rest => if Text.isBlank c then dropBlanks f fuel (f.skip rest) else s

/-- Reads a number with white space around it; the number is missing if there are no digits. -/
def readCount (f : Flags) (s : List Char) : Option (Option Nat × List Char) :=
  let (digits, rest) := readDigits f s.length (s.dropWhile Text.isBlank)
  let rest := dropBlanks f rest.length rest
  let n := digits.foldl (fun n c => n * 10 + (c.toNat - '0'.toNat)) 0
  if digits = [] then some (none, rest) else if n ≤ countLimit then some (some n, rest) else none

/-- Reads a counted repetition from behind its brace: a number of times, or from one number to
    another, or from one number on. -/
def readTimes (f : Flags) (s : List Char) : Option (Token × List Char) := do
  let (least, rest) ← readCount f (f.skip s)
  let least ← least
  match rest with
  | '}' :: rest => some (.times least (some least), rest)
  | ',' :: rest =>
    match f.skip rest with
    | '}' :: rest => some (.times least none, rest)
    | rest =>
      let (most, rest) ← readCount f rest
      let most ← most
      match rest with
      | '}' :: rest => if least ≤ most then some (.times least (some most), rest) else none
      | _ => none
  | _ => none

/-- Drops the mark that says which match a repetition prefers. -/
def dropPreference (s : List Char) : List Char := (Text.after? ['?'] s).getD s

/-! ### All parts -/

/-- The pattern of an escape outside brackets. -/
def ofEscape (f : Flags) : Escape → Option Token
  | .char c asByte =>
    if !f.wide && asByte && 0x80 ≤ c.toNat then none else some (.atom (f.literal c) 0)
  | .cls a => some (.atom (.one a) 0)
  | .anchor a => some (.atom (.anchored a) 0)

/-- Reads one part. -/
def read (p : Progress) (c : Char) (rest : List Char) : Option (Token × Progress × List Char) := do
  let f := p.flags
  match c with
  | '(' => readOpening p rest
  | ')' =>
    match p.outer with
    | [] => none
    | flags :: outer => some (.closing, { p with flags := flags, outer := outer }, rest)
  | '|' => some (.bar, p, rest)
  | '[' =>
    let (a, rest) ← Bracket.read f rest
    return (.atom (.one a.cls) a.depth, p, rest)
  | '?' => some (.times 0 (some 1), p, dropPreference rest)
  | '*' => some (.times 0 none, p, dropPreference rest)
  | '+' => some (.times 1 none, p, dropPreference rest)
  | '{' =>
    let (token, rest) ← readTimes f rest
    return (token, p, dropPreference (f.skip rest))
  | '\\' =>
    let (escape, rest) ← Escape.read f rest
    return (← ofEscape f escape, p, rest)
  | '.' => return (.atom (← f.dot?) 0, p, rest)
  | '^' => some (.atom f.start 0, p, rest)
  | '$' => some (.atom f.stop 0, p, rest)
  | c => some (.atom (f.literal c) 0, p, rest)

/-- Reads all parts of a text, for as many characters as `fuel`. -/
def readAllFrom : Nat → Progress → List Char → Option (List Token)
  | 0, _, _ => none
  | fuel + 1, p, s =>
    match p.flags.skip s with
    | [] => some []
    | c :: rest => do
      let (token, p, rest) ← read p c rest
      return token :: (← readAllFrom fuel p rest)

/-- The parts of a pattern, if each of them makes sense. -/
def readAll (s : List Char) : Option (List Token) := readAllFrom (s.length + 1) {} s

end Token
end Issuance.Pattern

import Issuance.Pattern.Token

/-! # Reading patterns

    The parts of a pattern are put together: a repetition takes the part before it, parts that
    follow each other bind closer than bars, and groups are closed in the order in which they were
    not opened. A pattern that is nested too deep, or would be too large, is refused. -/

namespace Issuance.Pattern

/-- A piece of a pattern: how deep it is nested, about how many bytes a machine for it takes, and
    whether it can be repeated. -/
structure Piece where
  pattern : Pattern
  depth : Nat
  size : Nat
  repeatable : Bool := true

namespace Piece

/-- How deep a pattern can be nested. -/
def depthLimit : Nat := 250

/-- How many bytes a machine can take. -/
def sizeLimit : Nat := 10485760

/-- About how many runs outside ASCII a class can fall into. -/
def runLimit : Nat := 780

/-- About how many bytes a machine for a class takes. -/
def classSize (c : CharClass) : Nat :=
  match c.spread with
  | (1, 0) => 32
  | (ascii, rest) => 64 + 8 * min ascii 64 + 64 * min rest runLimit

/-- The piece of a part that stands on its own. -/
def ofAtom (p : Pattern) (depth : Nat) : Piece :=
  ⟨p, depth, match p with | .one c => classSize c | _ => 32, true⟩

/-- The piece of flags, which match nothing and cannot be repeated. -/
def ofFlags : Piece := ⟨.nothing, 0, 32, false⟩

/-- The piece of pieces that follow each other. -/
def ofSequence (pieces : List Piece) : Piece :=
  match pieces with
  | [] => ⟨.nothing, 0, 32, true⟩
  | [p] => p
  | pieces =>
    ⟨.sequence (pieces.map Piece.pattern), (pieces.map Piece.depth).foldl max 0 + 1,
      pieces.foldl (fun n p => n + p.size) 0, true⟩

/-- The piece of pieces to choose from. -/
def ofChoice (pieces : List Piece) : Piece :=
  match pieces with
  | [p] => p
  | pieces =>
    ⟨.choice (pieces.map Piece.pattern), (pieces.map Piece.depth).foldl max 0 + 1,
      pieces.foldl (fun n p => n + p.size + 4) 64, true⟩

/-- The piece of a group. -/
def grouped (captures : Bool) (p : Piece) : Piece :=
  ⟨p.pattern, p.depth + 1, p.size + (if captures then 64 else 0), true⟩

/-- A piece repeated. One that only matches the empty text is repeated once at most. -/
def repeated (least : Nat) (most : Option Nat) (p : Piece) : Piece :=
  let rounds (n : Nat) : Nat := if p.pattern.takesNothing then min n 1 else n
  let size :=
    match most with
    | none => max (rounds least) 1 * p.size + 64
    | some most => rounds most * p.size + (rounds most - rounds least) * 40 + 32
  ⟨.times p.pattern least most, p.depth + 1, size, true⟩

end Piece

/-- An open group: its branches before the last bar and the pieces behind it, both with the last one
    first. -/
structure Level where
  captures : Bool := false
  branches : List Piece := []
  pieces : List Piece := []

namespace Level

/-- A group with one more piece. -/
def add (l : Level) (p : Piece) : Level := { l with pieces := p :: l.pieces }

/-- A group behind a bar. -/
def branch (l : Level) : Level :=
  { l with branches := .ofSequence l.pieces.reverse :: l.branches, pieces := [] }

/-- What is in a group, if it is closed here. -/
def close (l : Level) : Piece := .ofChoice l.branch.branches.reverse

end Level

/-- Puts parts together behind open groups, the innermost first. -/
def assemble (l : Level) (outer : List Level) : List Token → Option Piece
  | [] => if outer.isEmpty then some l.close else none
  | .atom p depth :: rest => assemble (l.add (.ofAtom p depth)) outer rest
  | .setting :: rest => assemble (l.add .ofFlags) outer rest
  | .bar :: rest => assemble l.branch outer rest
  | .opening captures :: rest => assemble ⟨captures, [], []⟩ (l :: outer) rest
  | .closing :: rest =>
    match outer with
    | [] => none
    | o :: outer => assemble (o.add (l.close.grouped l.captures)) outer rest
  | .times least most :: rest =>
    match l.pieces with
    | p :: pieces =>
      if p.repeatable then
        assemble { l with pieces := p.repeated least most :: pieces } outer rest
      else none
    | [] => none

/-- The pattern that a text stands for, if it makes sense. -/
def ofText? (s : List Char) : Option Pattern := do
  let p ← assemble {} [] (← Token.readAll s)
  if p.depth ≤ Piece.depthLimit ∧ p.size ≤ Piece.sizeLimit then some p.pattern else none

end Issuance.Pattern

import Issuance.Pattern.CharClass

/-! # Patterns

    A pattern describes texts. Matching starts from a set of spots in a text and works out the set
    of spots where the pattern can end; a set of spots is a mark for each of them, in order. So
    every way to match is followed at once, and no spot is looked at twice. -/

namespace Issuance

/-- A spot in a text: the character before it and the one after it. -/
structure Spot where
  before : Option Char
  after : Option Char
  deriving DecidableEq, Repr

/-- The spots of a text after a character, from left to right. -/
def Spot.ofTextFrom (before : Option Char) : List Char → List Spot
  | [] => [⟨before, none⟩]
  | c :: rest => ⟨before, some c⟩ :: ofTextFrom (some c) rest

/-- The spots of a text: one more than there are characters. -/
def Spot.ofText (s : List Char) : List Spot := Spot.ofTextFrom none s

/-- A condition on a spot. Lines end in line feeds, or also in carriage returns and in both
    together. Words are made of all word characters, or of those in ASCII only. -/
inductive Anchor where
  | textStart
  | textEnd
  | lineStart (returns : Bool)
  | lineEnd (returns : Bool)
  | wordEdge (wide : Bool)
  | noWordEdge (wide : Bool)
  | wordStart (wide : Bool)
  | wordEnd (wide : Bool)
  | noWordBefore (wide : Bool)
  | noWordAfter (wide : Bool)
  deriving DecidableEq, Repr

namespace Anchor

/-- Whether there is a word character. -/
def isWord (wide : Bool) (c : Option Char) : Bool :=
  c.any fun c => if wide then Text.isWordChar c else c.isAlphanum || c == '_'

/-- Whether a spot meets a condition. -/
def holds (a : Anchor) (p : Spot) : Bool :=
  match a with
  | .textStart => p.before.isNone
  | .textEnd => p.after.isNone
  | .lineStart returns =>
    p.before.isNone || p.before == some '\n' ||
      (returns && p.before == some '\r' && p.after != some '\n')
  | .lineEnd returns =>
    p.after.isNone || (returns && p.after == some '\r') ||
      (p.after == some '\n' && !(returns && p.before == some '\r'))
  | .wordEdge wide => isWord wide p.before != isWord wide p.after
  | .noWordEdge wide => isWord wide p.before == isWord wide p.after
  | .wordStart wide => !isWord wide p.before && isWord wide p.after
  | .wordEnd wide => isWord wide p.before && !isWord wide p.after
  | .noWordBefore wide => !isWord wide p.before
  | .noWordAfter wide => !isWord wide p.after

end Anchor

/-- A pattern. -/
inductive Pattern where
  | nothing
  | one (cls : CharClass)
  | anchored (a : Anchor)
  | both (p q : Pattern)
  | either (p q : Pattern)
  | times (p : Pattern) (least : Nat) (most : Option Nat)
  deriving DecidableEq, Repr

namespace Pattern

/-- The spots one character further on, from marked spots with a character of the class after
    them. -/
def advance (cls : CharClass) (spots : List Spot) (marks : List Bool) : List Bool :=
  false :: (List.zipWith (fun m p => m && p.after.any cls.mem) marks spots).dropLast

/-- All that is reached from `front` in a number of steps, added to what was `seen`; it ends when a
    step finds nothing new. -/
def reach (step : List Bool → List Bool) : Nat → List Bool → List Bool → List Bool
  | 0, seen, _ => seen
  | n + 1, seen, front =>
    let found := List.zipWith (fun new old => new && !old) (step front) seen
    if found.any id then reach step n (List.zipWith or seen found) found else seen

/-- The spots where a pattern can end that starts at marked spots. More rounds of a repetition than
    there are spots reach nothing else. -/
def ends (spots : List Spot) : Pattern → List Bool → List Bool
  | .nothing, marks => marks
  | .one cls, marks => advance cls spots marks
  | .anchored a, marks => List.zipWith (fun m p => m && a.holds p) marks spots
  | .both p q, marks => ends spots q (ends spots p marks)
  | .either p q, marks => List.zipWith or (ends spots p marks) (ends spots q marks)
  | .times p least most, marks =>
    let bound := spots.length
    let start := Nat.repeat (fun m => ends spots p m) (min least bound) marks
    reach (fun m => ends spots p m) (min ((most.map (· - least)).getD bound) bound) start start

/-- Whether a pattern describes a part of a text. -/
def occursIn (p : Pattern) (s : List Char) : Bool :=
  let spots := Spot.ofText s
  (p.ends spots (spots.map fun _ => true)).any id

/-- The pattern of patterns that follow each other. -/
def sequence : List Pattern → Pattern
  | [] => .nothing
  | [p] => p
  | p :: rest => .both p (sequence rest)

/-- The pattern of patterns to choose from. -/
def choice : List Pattern → Pattern
  | [] => .nothing
  | [p] => p
  | p :: rest => .either p (choice rest)

/-- Whether a pattern only describes the empty text. -/
def takesNothing : Pattern → Bool
  | .nothing | .anchored _ => true
  | .one _ => false
  | .both p q | .either p q => p.takesNothing && q.takesNothing
  | .times p _ _ => p.takesNothing

end Pattern
end Issuance

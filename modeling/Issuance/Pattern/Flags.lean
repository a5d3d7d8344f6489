import Issuance.Pattern.Basic

/-! # Flags of a pattern

    Flags change what the parts of a pattern behind them mean. `wide` is the reading by Unicode,
    which is on from the start; without it classes hold ASCII characters only, and what could match
    a piece of another character is refused. -/

namespace Issuance.Pattern

/-- The flags: letters in any case; anchors at lines; a dot for every character; the reading by
    Unicode; lines that end in carriage returns too; white space and comments that mean nothing. -/
structure Flags where
  anyCase : Bool := false
  lines : Bool := false
  dotAll : Bool := false
  wide : Bool := true
  returns : Bool := false
  spaced : Bool := false
  deriving DecidableEq, Repr

namespace Flags

/-- Turns the flag of a letter on or off. One letter changes only which match is preferred. -/
def set? (f : Flags) (letter : Char) (on : Bool) : Option Flags :=
  match letter with
  | 'i' => some { f with anyCase := on }
  | 'm' => some { f with lines := on }
  | 's' => some { f with dotAll := on }
  | 'u' => some { f with wide := on }
  | 'R' => some { f with returns := on }
  | 'x' => some { f with spaced := on }
  | 'U' => some f
  | _ => none

/-- A class with the letters of any case added, if case does not count. -/
def folded (f : Flags) (cls : CharClass) : CharClass :=
  if f.anyCase then cls.inAnyCase f.wide else cls

/-- A class, or what is not in it, if that can be matched. Without the reading by Unicode a class
    has all characters outside ASCII or none of them, and one that has them is refused. -/
def closed? (f : Flags) (negated : Bool) (cls : CharClass) : Option CharClass :=
  let cls := if negated then .complement cls else cls
  if !f.wide && cls.mem '\x80' then none else some cls

/-- The pattern of one character. -/
def literal (f : Flags) (c : Char) : Pattern :=
  if f.wide || c.toNat < 0x80 then .one (f.folded (.single c)) else .one (.single c)

/-- The pattern of a dot. -/
def dot? (f : Flags) : Option Pattern :=
  if !f.wide then none
  else if f.dotAll then some (.one .full)
  else if f.returns then some (.one (.complement (.ofText "A D")))
  else some (.one (.complement (.single '\n')))

/-- The pattern of `^`. -/
def start (f : Flags) : Pattern := .anchored (if f.lines then .lineStart f.returns else .textStart)

/-- The pattern of `$`. -/
def stop (f : Flags) : Pattern := .anchored (if f.lines then .lineEnd f.returns else .textEnd)

end Flags

/-! ### White space and comments -/

/-- A text without the white space and the comments it starts with; a comment goes from `#` to the
    end of its line. -/
def skipSpaced (inComment : Bool) : List Char → List Char
  | [] => []
  | c :: rest =>
    if inComment then skipSpaced (c != '\n') rest
    else if Text.isBlank c then skipSpaced false rest
    else if c = '#' then skipSpaced true rest
    else c :: rest

/-- A text without what means nothing in front. -/
def Flags.skip (f : Flags) (s : List Char) : List Char := if f.spaced then skipSpaced false s else s

end Issuance.Pattern

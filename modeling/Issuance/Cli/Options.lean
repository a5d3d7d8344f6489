import Issuance.Text.Split

/-! # Options of a command line

    A command line is read from the left. `--name value`, `--name=value`, `-n value`, `-nvalue` and
    `-n=value` give an option its value; flags take none, and several may share one dash. A value on
    its own must not look like an option. Nothing but options and their values may stand on the
    line, and an option comes once unless it may be repeated. Asking for help or the version ends
    the reading at once. -/

namespace Issuance.Cli

/-- Why a command line is not carried out: information was asked for, or it makes no sense. -/
inductive Stop where
  | information
  | misuse
  deriving DecidableEq, Repr

/-- The exit code of a command line that is not carried out. -/
def Stop.exitCode : Stop → Nat
  | .information => 0
  | .misuse => 2

/-- What an option does: ask for information, be there or not, or take a value, once or more
    often. -/
inductive Arity where
  | information
  | flag
  | value
  | values
  deriving DecidableEq, Repr

/-- An option: its long name, its letter, what it does, and which values it takes. -/
structure OptionSpec where
  long : String
  short : Option Char := none
  arity : Arity
  accepts : List Char → Bool := fun _ => true

/-- An option as it was given: its long name, and its value. -/
structure Given where
  long : String
  value : List Char
  deriving DecidableEq, Repr

/-- An argument by its looks. -/
inductive Argument where
  | separator
  | long (name : List Char) (value : Option (List Char))
  | short (letters : List Char)
  | plain (text : List Char)
  deriving DecidableEq, Repr

/-- What an argument looks like. A lone dash is a plain one. -/
def Argument.ofText (s : List Char) : Argument :=
  match s with
  | ['-', '-'] => .separator
  | '-' :: '-' :: rest =>
    match Text.cut '=' rest with
    | some (name, value) => .long name (some value)
    | none => .long rest none
  | '-' :: c :: rest => .short (c :: rest)
  | _ => .plain s

/-- The options given so far, and the option that waits for its value. -/
structure Progress where
  given : List Given := []
  waiting : Option OptionSpec := none

/-- Takes note of an option with its value. -/
def give (o : OptionSpec) (value : List Char) (given : List Given) : Except Stop (List Given) :=
  if o.arity ≠ .values ∧ given.any (fun g => g.long == o.long) then .error .misuse
  else if o.accepts value then .ok (given ++ [⟨o.long, value⟩])
  else .error .misuse

/-- Reads an option by its long name. -/
def readLong (specs : List OptionSpec) (name : List Char) (value : Option (List Char))
    (given : List Given) : Except Stop Progress :=
  match specs.find? fun o => o.long.toList == name with
  | none => .error .misuse
  | some o =>
    match o.arity, value with
    | .information, none => .error .information
    | .flag, none => (give o [] given).map fun g => ⟨g, none⟩
    | .information, some _ | .flag, some _ => .error .misuse
    | _, none => .ok ⟨given, some o⟩
    | _, some v => (give o v given).map fun g => ⟨g, none⟩

/-- The value behind a letter: an equals sign may part them. -/
def attached : List Char → List Char
  | '=' :: value => value
  | value => value

/-- Reads options by their letters. The first that takes a value takes the rest. -/
def readShort (specs : List OptionSpec) : List Char → List Given → Except Stop Progress
  | [], given => .ok ⟨given, none⟩
  | c :: rest, given =>
    match specs.find? fun o => o.short == some c with
    | none => .error .misuse
    | some o =>
      match o.arity with
      | .information => .error .information
      | .flag =>
        match give o [] given with
        | .error stop => .error stop
        | .ok given' => readShort specs rest given'
      | _ =>
        if rest = [] then .ok ⟨given, some o⟩
        else (give o (attached rest) given).map fun g => ⟨g, none⟩

/-- Reads one argument. -/
def readArgument (specs : List OptionSpec) (p : Progress) (arg : List Char) :
    Except Stop Progress :=
  match Argument.ofText arg, p.waiting with
  | .plain text, some o => (give o text p.given).map fun g => ⟨g, none⟩
  | .plain _, none => .error .misuse
  | _, some _ => .error .misuse
  | .separator, none => .error .misuse
  | .long name value, none => readLong specs name value p.given
  | .short letters, none => readShort specs letters p.given

/-- The options given on a line. A separator may end it. -/
def readOptions (specs : List OptionSpec) : Progress → List (List Char) → Except Stop (List Given)
  | p, [] => if p.waiting.isSome then .error .misuse else .ok p.given
  | p, arg :: rest =>
    if p.waiting.isNone ∧ Argument.ofText arg = .separator ∧ rest = [] then .ok p.given
    else
      match readArgument specs p arg with
      | .error stop => .error stop
      | .ok p' => readOptions specs p' rest

/-- The value of an option that was given. -/
def valueOf? (long : String) (given : List Given) : Option String :=
  (given.find? fun g => g.long == long).map fun g => String.ofList g.value

/-- Whether an option was given. -/
def wasGiven (long : String) (given : List Given) : Bool := given.any fun g => g.long == long

end Issuance.Cli

import Issuance.Text.Blank
import Issuance.Text.Hex
import Issuance.Text.Split

/-! # Runs of code points

    A set of characters is written as runs of code points in base sixteen with blanks between
    them: `41-5A` for all from one to another, `AA` for one alone, and `100-12E/2` for every second
    one. -/

namespace Issuance.Text

/-- The code points from one to another in equal steps. -/
structure Run where
  first : Nat
  last : Nat
  step : Nat := 1
  deriving DecidableEq, Repr

namespace Run

/-- Whether a code point is in a run. -/
def holds (r : Run) (n : Nat) : Bool :=
  r.first ≤ n && n ≤ r.last && (n - r.first) % r.step == 0

/-- How many code points are in a run. -/
def size (r : Run) : Nat := (r.last + 1 - r.first + (r.step - 1)) / r.step

/-- The run that a text stands for. -/
def ofText (s : List Char) : Run :=
  let number (s : List Char) : Nat := (ofHex? s).getD 0
  let (bounds, step) := (cut '/' s).getD (s, ['1'])
  let (first, last) := (cut '-' bounds).getD (bounds, bounds)
  ⟨number first, number last, number step⟩

end Run

/-- The runs that a text stands for. -/
def runsOfText (s : String) : List Run :=
  let spaced := s.toList.map fun c => if isBlank c then ' ' else c
  ((splitOn ' ' spaced).filter (· ≠ [])).map Run.ofText

end Issuance.Text

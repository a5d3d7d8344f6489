import Issuance.Json.Reader
import Issuance.Template.Wpm
import Issuance.Template.Wpml
import Issuance.Template.Wpt
import Issuance.Traced

/-! # Template sources

    The three formats a template can be written in, and the one way to load a text in any of
    them. -/

namespace Issuance

/-- A format for templates. -/
inductive SourceFormat where
  | wpml
  | wpt
  | wpm
  deriving DecidableEq, Repr

/-- The error for a flaw of a template. -/
def refuse {α : Type} (x : Except Flaw α) : Except Error α := x.mapError .templateInvalid

/-- The error for a text that is not the JSON it should be. -/
def demand {α : Type} (x : Except Json.Diagnostic α) : Except Error α := x.mapError .serialization

namespace Template

/-- Loads a template from a text. -/
def load (format : SourceFormat) (text : List Char) : Traced Event Template :=
  match format with
  | .wpml => ⟨Wpml.records text, refuse (Wpml.template text)⟩
  | .wpt => .ofExcept (refuse (Wpt.template text))
  | .wpm => .ofExcept ((demand (Json.parse text)).bind fun raw => refuse (Wpm.template raw))

end Template
end Issuance

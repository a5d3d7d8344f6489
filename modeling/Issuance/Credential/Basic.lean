import Issuance.Template.Basic

/-! # Credentials

    A rendered credential: the summary of the template it was made from, and its body. -/

namespace Issuance

/-- A rendered credential. -/
structure Credential where
  summary : Summary
  body : Json.Object

namespace Credential

/-- The credential as a JSON value. -/
def toJson (c : Credential) : Json := .object [("meta", c.summary.toJson), ("body", .object c.body)]

/-- A credential of which some members are read. -/
structure Draft where
  summary : Option Summary := none
  body : Option Json.Object := none

/-- The members of a credential in JSON. -/
def shape : Json.Decoder.Shape Draft Credential where
  title := "struct RenderedCredential"
  slots :=
    [.member "meta" Draft.summary (fun d v => { d with summary := some v }) Summary.decoder false,
      .member "body" Draft.body (fun d v => { d with body := some v }) .object false]
  blank := {}
  build d :=
    match d.summary, d.body with
    | none, _ => .error "meta"
    | _, none => .error "body"
    | some summary, some body => .ok ⟨summary, body⟩

/-- Reads a credential. -/
def decoder : Json.Decoder Credential := .record shape

end Credential
end Issuance

import Issuance.Json.Decoder

/-! # What a credential is rendered for

    An organization has a DID and may have any other members, which placeholders can ask for. A
    context joins it with the values of a filled form. -/

namespace Issuance

/-- An organization that issues credentials. -/
structure Organization where
  did : String
  extra : Json.Object := []

namespace Organization

/-- The members of an organization, the DID first. -/
def members (o : Organization) : Json.Object :=
  Json.Object.overlay [("did", .string o.did)] o.extra

/-- The organization as a JSON value. -/
def toJson (o : Organization) : Json := .object o.members

/-- Reads the further members of an organization: its DID once, all others as they come. -/
def membersFrom (depth : Nat) : Nat → Bool → Option String → List (String × Json) → List Char →
    Except Json.Fault (Organization × List Char)
  | 0, _, _, _, s => .error (.before .tooDeep s)
  | steps + 1, first, did, others, s =>
    match Json.nextName first s with
    | .error f => .error f
    | .ok (.done rest) =>
      match did with
      | none => .error (.before (.missingMember "did") rest)
      | some did => .ok (⟨did, Json.Object.ofMembers others⟩, rest)
    | .ok (.more rest) =>
      match Json.readString rest with
      | .error f => .error f
      | .ok (name, rest₁) =>
        if String.ofList name = "did" then
          if did.isSome then
            .error (.before (.repeatedMember "did") (Json.Decoder.closeObject rest₁))
          else
            match (Json.readColon rest₁).bind (Json.Decoder.string depth) with
            | .error f => .error f
            | .ok (d, rest₂) => membersFrom depth steps false (some d) others rest₂
        else
          match (Json.readColon rest₁).bind (Json.Decoder.value depth) with
          | .error f => .error f
          | .ok (v, rest₂) =>
            membersFrom depth steps false did (others ++ [(String.ofList name, v)]) rest₂

/-- Reads an organization, which has to be an object. -/
def decoder : Json.Decoder Organization := fun depth s =>
  match Json.skipSpace s with
  | [] => .error (.before .endInValue [])
  | c :: rest =>
    if c = '{' then
      match depth with
      | 0 => .error (.on .tooDeep (c :: rest))
      | depth + 1 => membersFrom depth (Json.stepsFor rest) true none [] rest
    else .error (Json.Decoder.mismatch "struct Organization" (c :: rest))

end Organization

/-- What a credential is rendered for: who issues it, and the values of the fields. -/
structure RenderContext where
  org : Organization
  form : Json.Object := []

namespace RenderContext

/-- The context as a JSON value. -/
def toJson (c : RenderContext) : Json := .object [("org", c.org.toJson), ("form", .object c.form)]

/-- A context of which some members are read. -/
structure Draft where
  org : Option Organization := none
  form : Option Json.Object := none

/-- The members of a context in JSON; the form may be missing. -/
def shape : Json.Decoder.Shape Draft RenderContext where
  title := "struct RenderContext"
  slots :=
    [.member "org" Draft.org (fun d v => { d with org := some v }) Organization.decoder false,
      .member "form" Draft.form (fun d v => { d with form := some v }) .object true]
  blank := {}
  build d :=
    match d.org with
    | none => .error "org"
    | some org => .ok ⟨org, d.form.getD []⟩

/-- Reads a context. -/
def decoder : Json.Decoder RenderContext := .record shape

end RenderContext
end Issuance

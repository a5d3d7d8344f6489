import Issuance.Proofs.Credential.Completion
import Issuance.Proofs.Placeholder.Filling
import Issuance.Proofs.Traced

/-! # Finished credentials

    A credential that is rendered again stays as it is. Its body is finished: the issuer is set and
    nothing is left empty, so that completing it for the same organization writes nothing new. And a
    body that asks for nothing, in no name and no string, is filled to itself, and what is printed
    of it is read back. So no clock, no id and no form changes it any more. -/

namespace Issuance

open Placeholder (Grammar)

variable {did : String} {body : Json.Object}

/-! ### Bodies that completing leaves as they are -/

/-- A body with the issuer and the members that are filled in. -/
structure Finished (did : String) (body : Json.Object) : Prop where
  issuer : body.get? "issuer" = some (.string did)
  filledIn : ∀ name ∈ filledInNames, isUnset (body.get? name) = false

theorem finished_complete (did : String) (issued : Instant) (tokenSource : String)
    (body : Json.Object) : Finished did (complete did issued tokenSource body) where
  issuer := get?_complete_issuer did issued tokenSource body
  filledIn _ hname := isUnset_complete did issued tokenSource hname

theorem fillIn_eq_self {name : String} (h : isUnset (body.get? name) = false) (value : Json) :
    fillIn name value body = body := by
  rw [fillIn, if_neg (Bool.eq_false_iff.mp h)]

/-- Completing a finished body changes nothing. -/
theorem Finished.complete_eq_self (h : Finished did body) (issued : Instant)
    (tokenSource : String) : complete did issued tokenSource body = body := by
  rw [complete, Json.Object.insert_eq_self h.issuer, fillIn_eq_self (h.filledIn _ (by decide)),
    fillIn_eq_self (h.filledIn _ (by decide)), fillIn_eq_self (h.filledIn _ (by decide))]

/-! ### Bodies that ask for nothing -/

/-- An object whose names and strings ask for nothing is filled to its compact form. -/
theorem Template.filled_eq_compact {t : Template} (hskeleton : t.skeleton = .object body)
    (hnumbers : ∀ n, .number n ∈ (Json.object body).leaves → n.ReadsBack)
    (hplain : ∀ s, .name s ∈ (Json.object body).leaves ∨ .text s ∈ (Json.object body).leaves →
      ({} : Grammar).AsksNothing s.toList)
    (escaping : Placeholder.Escaping) (b : Placeholder.Builtins) (ctx : RenderContext) :
    t.filled escaping b ctx = Json.compact (.object body) := by
  have hsource : t.source = Json.compact (.object body) := by rw [source, hskeleton]
  have hgrammar : t.grammar = {} := by rw [grammar, hskeleton]
  have hnothing : ({} : Grammar).AsksNothing (Json.compact (.object body)) := by
    have hwrites : Json.Writes .Canonical (.object body) (Json.compact (.object body)) :=
      ⟨[], _, [], Json.blank_nil, Json.derives_compact hnumbers, Json.blank_nil,
        by rw [List.nil_append, List.append_nil]⟩
    exact (Placeholder.asksNothing_iff_of_writes Placeholder.tame_canonical hwrites).mpr hplain
  rw [filled, hsource, hgrammar, Placeholder.fillAll_eq_self hnothing]

/-! ### Rendering again -/

namespace Renderer

variable {r : Renderer} {t : Template} {ctx : RenderContext} {u : Usage} {cred : Credential}

/-- What a rendering ends in is finished for its organization, repeats no name and is no deeper than
    what can be read. -/
theorem finished_of_outcome (h : (r.render t ctx u).result.outcome = .ok cred) :
    Finished ctx.org.did cred.body ∧ Json.Fits Json.depthLimit (.object cred.body) := by
  obtain ⟨read, hread, rfl⟩ := exists_readBody_of_outcome h
  obtain ⟨raw, -, hdepth, hmerged⟩ := Json.parse_eq_ok_iff.mp (readBody_eq_ok_iff.mp hread)
  exact ⟨finished_complete _ _ _ _, fits_complete _ _ _ (hmerged ▸ Json.fits_merged hdepth)⟩

/-- The body of a credential without placeholders, as the skeleton of an object template, is
    rendered to itself: for the same organization, whatever else the template, the form, the clock,
    the ids and the escaping are, member for member. -/
theorem outcome_of_finished_skeleton (h : (r.render t ctx u).result.outcome = .ok cred)
    (hplain : ∀ s, .name s ∈ (Json.object cred.body).leaves ∨
      .text s ∈ (Json.object cred.body).leaves → ({} : Grammar).AsksNothing s.toList)
    (hnumbers : ∀ n, .number n ∈ (Json.object cred.body).leaves → n.ReadsBack)
    {t' : Template} (hskeleton : t'.skeleton = .object cred.body)
    {ctx' : RenderContext} (hvalid : t'.validate (t'.values ctx'.form) = .ok ())
    (hdid : ctx'.org.did = ctx.org.did) (r' : Renderer) (u' : Usage) :
    (r'.render t' ctx' u').result.outcome = .ok ⟨t'.toSummary, cred.body⟩ := by
  obtain ⟨hfinished, hfits⟩ := finished_of_outcome h
  have hfilled := Template.filled_eq_compact hskeleton hnumbers hplain r'.escaping
    (r'.builtins u') ctx'
  have hbody : readBody (t'.filled r'.escaping (r'.builtins u') ctx') = .ok cred.body := by
    rw [hfilled, readBody_eq_ok_iff]
    exact Json.parse_of_writes (Json.writes_compact hnumbers) hfits
  rw [outcome_of_readBody hvalid hbody, hdid, hfinished.complete_eq_self]

/-! ### A credential to render again -/

namespace Specimen

/-- A renderer with another clock and other ids, that puts values in as they are. -/
def later : Renderer := { clock := fun n => ⟨86400 + n, 0⟩, ids := fun _ => "later" }

/-- The same organization with another form. -/
def other : RenderContext := ⟨⟨"did:web:school", []⟩, [("name", .string "Ada")]⟩

/-- Whether a leaf asks for nothing and is no number but three. -/
def settles : Json.Leaf → Bool
  | .name s => (Text.hits (Text.pieces (Placeholder.find {}) s.toList)).isEmpty
  | .text s => (Text.hits (Text.pieces (Placeholder.find {}) s.toList)).isEmpty
  | .number n => n == .whole 3

theorem asksNothing_of_isEmpty {s : String}
    (h : (Text.hits (Text.pieces (Placeholder.find {}) s.toList)).isEmpty = true) :
    ({} : Grammar).AsksNothing s.toList :=
  Placeholder.asksNothing_iff.mpr (List.isEmpty_iff.mp h)

end Specimen

/-- A name with quotes and the start of a placeholder in it is kept. -/
theorem outcome_of_finished_skeleton_specimen :
    ∃ cred, ((Specimen.renderer .jsonString).render (Specimen.template (.object Specimen.members))
        Specimen.context {}).result.outcome = .ok cred ∧
      (Specimen.later.render (Specimen.template (.object cred.body)) Specimen.other
        ⟨3, 4⟩).result.outcome =
          .ok ⟨(Specimen.template (.object cred.body)).toSummary, cred.body⟩ := by
  have hrender : ((Specimen.renderer .jsonString).render
      (Specimen.template (.object Specimen.members)) Specimen.context {}).result.outcome.toOption.map
        (fun cred => (Json.object cred.body).leaves.all Specimen.settles) = some true := by
    decide +kernel
  obtain ⟨cred, hcred, hleaves⟩ := Option.map_eq_some_iff.mp hrender
  have hsettles := List.all_eq_true.mp hleaves
  have houtcome := toOption_eq_some_iff.mp hcred
  have hskeleton : (Specimen.template (.object cred.body)).skeleton = .object cred.body := rfl
  have hvalid : (Specimen.template (.object cred.body)).validate
      ((Specimen.template (.object cred.body)).values Specimen.other.form) = .ok () := rfl
  refine ⟨cred, houtcome, outcome_of_finished_skeleton houtcome ?_ ?_ hskeleton hvalid rfl _ _⟩
  · rintro s (hs | hs)
    · exact Specimen.asksNothing_of_isEmpty (hsettles _ hs)
    · exact Specimen.asksNothing_of_isEmpty (hsettles _ hs)
  · intro n hn
    obtain rfl : n = .whole 3 := beq_iff_eq.mp (hsettles _ hn)
    rfl

end Renderer
end Issuance

import Issuance.Proofs.Credential.Outcome
import Issuance.Proofs.Placeholder.Filling

/-! # Rendering an object

    The skeleton of an object template is printed, filled as a text and read again. With escaped
    values this comes to filling every name and every string of the skeleton by itself: no value,
    whatever it holds, gets out of the string it is put into. -/

namespace Issuance

/-- A value with its names and strings blanked: its truth values, numbers and nulls, and how its
    arrays and objects hold them. -/
def Json.outline (v : Json) : Json := v.mapTexts (fun _ => "") (fun _ => "")

theorem Json.outline_mapTexts (onName onText : String → String) (v : Json) :
    (v.mapTexts onName onText).outline = v.outline := by
  rw [outline, mapTexts_mapTexts]
  rfl

/-- An object template, filled with escaped values, is a text of its skeleton with each name and
    each string filled. -/
theorem Template.writes_filled_object {t : Template} {members : Json.Object}
    (hskeleton : t.skeleton = .object members)
    (hnumbers : ∀ n, .number n ∈ (Json.object members).leaves → n.ReadsBack)
    {b : Placeholder.Builtins} (hnow : ∀ c ∈ b.now, Json.isRaw c = true)
    (huuid : ∀ c ∈ b.uuid, Json.isRaw c = true) (ctx : RenderContext) :
    Json.Writes .Canonical
      ((Json.object members).mapTexts (Placeholder.verbatimFilled t.grammar b (t.scope ctx))
        (Placeholder.verbatimFilled t.grammar b (t.scope ctx)))
      (t.filled .jsonString b ctx) := by
  have hcompact : Json.Writes .Canonical (.object members) t.source := by
    refine ⟨[], _, [], Json.blank_nil, Json.derives_compact hnumbers, Json.blank_nil, ?_⟩
    rw [source, hskeleton, List.nil_append, List.append_nil]
  have hself : ∀ s : List Char, (∀ c ∈ s, Json.isRaw c = true) → Json.Literal .Canonical s s :=
    fun s hs => .self fun c hc => Json.canonical_of_isRaw (hs c hc)
  exact Placeholder.writes_fillAll Placeholder.tame_canonical (hself _ hnow) (hself _ huuid)
    (fun _ _ hw => hw) (fun _ _ hw => hw) hcompact

section
variable {r : Renderer} {t : Template} {members : Json.Object}

/-- The filled skeleton is read as the object of the filled members, written again in order. -/
theorem Renderer.exists_readBody_object (hskeleton : t.skeleton = .object members)
    (hdepth : (Json.object members).depth ≤ Json.depthLimit)
    (hnumbers : ∀ n, .number n ∈ (Json.object members).leaves → n.ReadsBack)
    (hescaping : r.escaping = .jsonString)
    (hids : ∀ n, ∀ c ∈ (r.ids n).toList, Json.isRaw c = true) (ctx : RenderContext) (u : Usage) :
    ∃ body, ((Json.object members).mapTexts
        (Placeholder.verbatimFilled t.grammar (r.builtins u) (t.scope ctx))
        (Placeholder.verbatimFilled t.grammar (r.builtins u) (t.scope ctx))).merged = .object body ∧
      readBody (t.filled r.escaping (r.builtins u) ctx) = .ok body := by
  have hwrites := Template.writes_filled_object hskeleton hnumbers (b := r.builtins u)
    (fun _ hc => isRaw_of_mem_now hc) (hids u.idsTaken) ctx
  refine ⟨_, rfl, ?_⟩
  rw [hescaping, readBody_eq_ok_iff, Json.parse_eq_ok_iff]
  exact ⟨_, hwrites.mono fun _ _ => Json.accepted_of_canonical, by rwa [Json.depth_mapTexts], rfl⟩

/-- Rendering an object template with escaped values never fails once its required fields have
    values. What is completed is the skeleton with every name and every string filled, values as
    they are, and its members written again in order. -/
theorem Renderer.outcome_of_object_skeleton (hskeleton : t.skeleton = .object members)
    (hdepth : (Json.object members).depth ≤ Json.depthLimit)
    (hnumbers : ∀ n, .number n ∈ (Json.object members).leaves → n.ReadsBack)
    (hescaping : r.escaping = .jsonString)
    (hids : ∀ n, ∀ c ∈ (r.ids n).toList, Json.isRaw c = true) (ctx : RenderContext) (u : Usage)
    (hvalid : t.validate (t.values ctx.form) = .ok ()) :
    ∃ (written : Json) (body : Json.Object),
      written = (Json.object members).mapTexts
        (Placeholder.verbatimFilled t.grammar (r.builtins u) (t.scope ctx))
        (Placeholder.verbatimFilled t.grammar (r.builtins u) (t.scope ctx)) ∧
      written.outline = (Json.object members).outline ∧
      written.merged = .object body ∧
      readBody (t.filled r.escaping (r.builtins u) ctx) = .ok body ∧
      (r.render t ctx u).result.outcome = .ok ⟨t.toSummary,
        complete ctx.org.did (r.clock u.clockReads) (r.ids (u.idsTaken + 1)) body⟩ := by
  obtain ⟨body, hmerged, hbody⟩ :=
    Renderer.exists_readBody_object hskeleton hdepth hnumbers hescaping hids ctx u
  exact ⟨_, body, rfl, Json.outline_mapTexts _ _ _, hmerged, hbody,
    outcome_of_readBody hvalid hbody⟩

/-- A name with quotes and braces in it stays within its string. -/
theorem Renderer.outcome_of_object_skeleton_specimen :
    ∃ (written : Json) (body : Json.Object),
      written = (Json.object Specimen.members).mapTexts
        (Placeholder.verbatimFilled {} ((Specimen.renderer .jsonString).builtins {})
          ((Specimen.template (.object Specimen.members)).scope Specimen.context))
        (Placeholder.verbatimFilled {} ((Specimen.renderer .jsonString).builtins {})
          ((Specimen.template (.object Specimen.members)).scope Specimen.context)) ∧
      written.outline = (Json.object Specimen.members).outline ∧
      written.merged = .object body ∧
      readBody ((Specimen.template (.object Specimen.members)).filled .jsonString
        ((Specimen.renderer .jsonString).builtins {}) Specimen.context) = .ok body ∧
      ((Specimen.renderer .jsonString).render (Specimen.template (.object Specimen.members))
        Specimen.context {}).result.outcome =
          .ok ⟨(Specimen.template (.object Specimen.members)).toSummary,
            complete "did:web:school" ⟨0, 0⟩ "id-2" body⟩ :=
  Renderer.outcome_of_object_skeleton (r := Specimen.renderer .jsonString)
    (t := Specimen.template (.object Specimen.members)) rfl (by decide) Specimen.readsBack rfl
    (fun _ _ hc => (isRaw_of_mem_sequentialIds hc).1) Specimen.context {} Specimen.validate_eq_ok

end

end Issuance

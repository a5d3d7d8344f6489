import Issuance.Proofs.Credential.Outcome
import Issuance.Proofs.Placeholder.Lookup

/-! # What a rendering depends on

    Two forms that differ only under names that no placeholder starts with, or under the names that
    the organization and the context are put over, are rendered alike: the same credential or the
    same error, the same records and the same use of the clock and the ids. -/

namespace Issuance

namespace Template

/-- The names that placeholders start with once the context and the reserved placeholders are put
    in. -/
def openNames (t : Template) (b : Placeholder.Builtins) : List String :=
  (Placeholder.paths t.grammar (Placeholder.fillBuiltins b t.source)).map Placeholder.firstName

/-- The names that no field can take: the organization, and the context of a text that has one. -/
def reservedNames (t : Template) : List String :=
  match t.skeleton, t.context with
  | .text _, some _ => ["org", contextName]
  | _, _ => ["org"]

variable {t : Template} {org : Organization} {form₁ form₂ : Json.Object} {name : String}

/-- A field that the form holds has the form's value, any other one its default. -/
theorem get?_values (t : Template) (name : String) {form : Json.Object} (h : form.names.Nodup) :
    (t.values form).get? name = (form.get? name).or (t.defaults.get? name) :=
  Json.Object.get?_overlay name t.defaults h

/-- What placeholders find under a name comes from the fields, unless the name is reserved. -/
theorem get?_scope_congr
    (h : name ∉ t.reservedNames → (t.values form₁).get? name = (t.values form₂).get? name) :
    (t.scope ⟨org, form₁⟩).get? name = (t.scope ⟨org, form₂⟩).get? name := by
  have horg : (name ≠ "org" → (t.values form₁).get? name = (t.values form₂).get? name) →
      ((t.values form₁).insert "org" org.toJson).get? name =
        ((t.values form₂).insert "org" org.toJson).get? name :=
    Json.Object.get?_insert_congr
  cases hskeleton : t.skeleton with
  | object members =>
    simp only [reservedNames, scope, hskeleton, List.mem_singleton] at h ⊢
    exact horg h
  | text body =>
    cases hcontext : t.context with
    | none =>
      simp only [reservedNames, scope, hskeleton, hcontext, List.mem_singleton] at h ⊢
      exact horg h
    | some c =>
      simp only [reservedNames, scope, hskeleton, hcontext, List.mem_cons, List.not_mem_nil,
        or_false, not_or] at h ⊢
      exact Json.Object.get?_insert_congr fun hne => horg fun hneorg => h ⟨hneorg, hne⟩

end Template

namespace Renderer

variable {r : Renderer} {t : Template} {org : Organization} {form₁ form₂ : Json.Object} {u : Usage}

/-- Forms that placeholders cannot tell apart are rendered alike. -/
theorem render_congr (hvalid₁ : t.validate (t.values form₁) = .ok ())
    (hvalid₂ : t.validate (t.values form₂) = .ok ())
    (hscope : ∀ name ∈ t.openNames (r.builtins u),
      (t.scope ⟨org, form₁⟩).get? name = (t.scope ⟨org, form₂⟩).get? name) :
    r.render t ⟨org, form₁⟩ u = r.render t ⟨org, form₂⟩ u := by
  have hpaths : ∀ path ∈ Placeholder.paths t.grammar
      (Placeholder.fillBuiltins (r.builtins u) t.source),
      (t.scope ⟨org, form₁⟩).get? (Placeholder.firstName path) =
        (t.scope ⟨org, form₂⟩).get? (Placeholder.firstName path) :=
    fun path hpath => hscope _ (List.mem_map_of_mem hpath)
  have hfilled : t.filled r.escaping (r.builtins u) ⟨org, form₁⟩ =
      t.filled r.escaping (r.builtins u) ⟨org, form₂⟩ :=
    Placeholder.fillAll_congr r.escaping hpaths
  have hmissing : t.missingRecords (r.builtins u) ⟨org, form₁⟩ =
      t.missingRecords (r.builtins u) ⟨org, form₂⟩ := by
    rw [Template.missingRecords, Template.missingRecords, Placeholder.missing_congr hpaths]
  simp only [render, hvalid₁, hvalid₂, hfilled, hmissing]

/-- A rendering depends on a form only through the names that placeholders start with, the reserved
    ones apart: forms that agree on these are rendered alike, and a member under any other name may
    be written into a form without a trace. Forms are objects, so no name is repeated in them. -/
theorem render_eq_of_agree (r : Renderer) (t : Template) (org : Organization) (u : Usage) :
    (∀ form₁ form₂ : Json.Object, form₁.names.Nodup → form₂.names.Nodup →
      t.validate (t.values form₁) = .ok () → t.validate (t.values form₂) = .ok () →
      (∀ name ∈ t.openNames (r.builtins u), name ∉ t.reservedNames →
        form₁.get? name = form₂.get? name) →
      r.render t ⟨org, form₁⟩ u = r.render t ⟨org, form₂⟩ u) ∧
    (∀ (form : Json.Object) (name : String) (value : Json), form.names.Nodup →
      t.validate (t.values form) = .ok () →
      t.validate (t.values (form.insert name value)) = .ok () →
      (name ∈ t.openNames (r.builtins u) → name ∈ t.reservedNames) →
      r.render t ⟨org, form.insert name value⟩ u = r.render t ⟨org, form⟩ u) := by
  have hagree : ∀ form₁ form₂ : Json.Object, form₁.names.Nodup → form₂.names.Nodup →
      t.validate (t.values form₁) = .ok () → t.validate (t.values form₂) = .ok () →
      (∀ name ∈ t.openNames (r.builtins u), name ∉ t.reservedNames →
        form₁.get? name = form₂.get? name) →
      r.render t ⟨org, form₁⟩ u = r.render t ⟨org, form₂⟩ u := by
    intro form₁ form₂ hnodup₁ hnodup₂ hvalid₁ hvalid₂ h
    refine render_congr hvalid₁ hvalid₂ fun name hname => ?_
    refine Template.get?_scope_congr fun hreserved => ?_
    rw [t.get?_values name hnodup₁, t.get?_values name hnodup₂, h name hname hreserved]
  refine ⟨hagree, ?_⟩
  intro form name value hnodup hvalid hvalid' hname
  refine hagree _ _ (Json.Object.nodup_names_insert hnodup name value) hnodup hvalid' hvalid ?_
  intro other hother hreserved
  refine Json.Object.get?_insert_of_ne ?_ value form
  rintro rfl
  exact hreserved (hname hother)

/-- A form that names an organization and a context of its own gives what the name alone gives. -/
theorem render_eq_of_agree_specimen :
    (Specimen.renderer .verbatim).render (Specimen.template (.text Specimen.text))
        ⟨⟨"did:web:school", []⟩, [("org", .string "forged"), ("name", .string "Eve"),
          ("$context", .null)]⟩ {} =
      (Specimen.renderer .verbatim).render (Specimen.template (.text Specimen.text))
        ⟨⟨"did:web:school", []⟩, [("name", .string "Eve")]⟩ {} := by
  have hopen : (Specimen.template (.text Specimen.text)).openNames
      ((Specimen.renderer .verbatim).builtins {}) = ["name"] := by decide +kernel
  refine (render_eq_of_agree _ _ _ _).1 _ _ (by decide) (by decide) rfl rfl ?_
  intro name hname _
  rw [hopen, List.mem_singleton] at hname
  subst hname
  rfl

end Renderer
end Issuance

import Issuance.Credential.Render
import Issuance.Proofs.Instant

/-! # What comes of a rendering

    A rendering ends in a credential just when the required fields have values and the filled
    skeleton is an object; the credential is then that object, completed. The other two ends are the
    error of the check and the error of the reading. -/

namespace Issuance

/-- A filled skeleton is an object just when it is read as one. -/
theorem readBody_eq_ok_iff {text : List Char} {members : Json.Object} :
    readBody text = .ok members ↔ Json.parse text = .ok (.object members) := by
  rw [readBody]
  constructor
  · intro h
    split at h
    · cases h
    · next hparse => cases h; exact hparse
    · cases h
  · intro h
    rw [h]

/-- A filled skeleton that is no object is no JSON at all or another value. -/
theorem readBody_error_cases {text : List Char} {e : Error} (h : readBody text = .error e) :
    (∃ d, e = .renderFailure d) ∨ ∃ v, e = .bodyNotObject v := by
  rw [readBody] at h
  split at h
  · cases h; exact .inl ⟨_, rfl⟩
  · cases h
  · cases h; exact .inr ⟨_, rfl⟩

/-- The check of the required fields passes, or it names one without a value. -/
theorem Template.validate_eq_ok_or (t : Template) (form : Json.Object) :
    t.validate form = .ok () ∨ ∃ id, t.validate form = .error (.missingRequiredField id) := by
  rw [Template.validate]
  cases firstMissing t.fields form with
  | none => exact .inl rfl
  | some f => exact .inr ⟨f.id, rfl⟩

/-- The check passes just when every required field has a value. -/
theorem Template.validate_eq_ok_iff {t : Template} {form : Json.Object} :
    t.validate form = .ok () ↔
      ∀ f ∈ t.fields, f.required = true → isMissing (form.get? f.id) = false := by
  rw [Template.validate, firstMissing]
  constructor
  · intro h f hf hrequired
    split at h
    · cases h
    · next hnone =>
      have hnot := List.find?_eq_none.mp hnone f hf
      rw [hrequired, Bool.true_and] at hnot
      exact Bool.eq_false_iff.mpr hnot
  · intro h
    have hnone : t.fields.find? (fun f => f.required && isMissing (form.get? f.id)) = none := by
      refine List.find?_eq_none.mpr fun f hf hmissing => ?_
      obtain ⟨hrequired, hmissing⟩ := Bool.and_eq_true_iff.mp hmissing
      rw [h f hf hrequired] at hmissing
      cases hmissing
    rw [hnone]

/-- The object that a filled skeleton is has distinct names. -/
theorem nodup_names_of_readBody {text : List Char} {members : Json.Object}
    (h : readBody text = .ok members) : members.names.Nodup := by
  obtain ⟨raw, -, -, hmerged⟩ := Json.parse_eq_ok_iff.mp (readBody_eq_ok_iff.mp h)
  exact Json.nodup_names_of_merged hmerged

namespace Renderer

variable {r : Renderer} {t : Template} {ctx : RenderContext} {u : Usage}

theorem outcome_of_validate_error {e : Error} (h : t.validate (t.values ctx.form) = .error e) :
    (r.render t ctx u).result.outcome = .error e := by
  rw [render, h]

theorem outcome_of_readBody {body : Json.Object} (hvalid : t.validate (t.values ctx.form) = .ok ())
    (hbody : readBody (t.filled r.escaping (r.builtins u) ctx) = .ok body) :
    (r.render t ctx u).result.outcome = .ok ⟨t.toSummary,
      complete ctx.org.did (r.clock u.clockReads) (r.ids (u.idsTaken + 1)) body⟩ := by
  simp only [render, hvalid, hbody]

theorem outcome_of_readBody_error {e : Error} (hvalid : t.validate (t.values ctx.form) = .ok ())
    (hbody : readBody (t.filled r.escaping (r.builtins u) ctx) = .error e) :
    (r.render t ctx u).result.outcome = .error e := by
  simp only [render, hvalid, hbody]

/-- A rendering that ends in a credential completed the object it had read. -/
theorem exists_readBody_of_outcome {cred : Credential}
    (h : (r.render t ctx u).result.outcome = .ok cred) :
    ∃ body, readBody (t.filled r.escaping (r.builtins u) ctx) = .ok body ∧
      cred = ⟨t.toSummary,
        complete ctx.org.did (r.clock u.clockReads) (r.ids (u.idsTaken + 1)) body⟩ := by
  simp only [render] at h
  split at h
  · cases h
  · split at h
    · cases h
    · next body hbody => cases h; exact ⟨body, hbody, rfl⟩

/-- Where the check passes, no required field is reported. -/
theorem outcome_ne_missingRequiredField (h : t.validate (t.values ctx.form) = .ok ())
    (id : String) : (r.render t ctx u).result.outcome ≠ .error (.missingRequiredField id) := by
  cases hbody : readBody (t.filled r.escaping (r.builtins u) ctx) with
  | ok body =>
    rw [outcome_of_readBody h hbody]
    rintro ⟨⟩
  | error e =>
    rw [outcome_of_readBody_error h hbody]
    rintro ⟨⟩
    rcases readBody_error_cases hbody with ⟨d, hd⟩ | ⟨v, hv⟩
    · cases hd
    · cases hv

/-! ### The reserved placeholders -/

/-- What stands for the time may stand in a literal as it is. -/
theorem isRaw_of_mem_now {c : Char} (h : c ∈ (r.builtins u).now) : Json.isRaw c = true :=
  isRaw_of_isTimestampChar (isTimestampChar_of_mem_text h)

end Renderer

/-- The ids of the sequence may stand in a literal as they are, and hold no dollar sign. -/
theorem isRaw_of_mem_sequentialIds {n : Nat} {c : Char} (h : c ∈ (sequentialIds n).toList) :
    Json.isRaw c = true ∧ c ≠ '$' := by
  simp only [sequentialIds, Json.numeral, String.toList_append, String.toList_ofList,
    List.mem_append] at h
  rcases h with h | h
  · have hall : "id-".toList.all (fun d => Json.isRaw d && d != '$') = true := by decide
    simpa using List.all_eq_true.mp hall c h
  · have htime : isTimestampChar c = true := by
      simp [isTimestampChar, Json.isDigit_of_mem_digitsOf h]
    exact ⟨isRaw_of_isTimestampChar htime, ne_dollar_of_isTimestampChar htime⟩

/-! ### A rendering to look at -/

namespace Specimen

/-- A renderer with a clock that stands still. -/
def renderer (escaping : Placeholder.Escaping) : Renderer :=
  { clock := fun _ => ⟨0, 0⟩, ids := sequentialIds, escaping }

/-- A template that asks for a name. -/
def template (skeleton : Skeleton) : Template :=
  { key := "card"
    name := "Card"
    context := some credentialContext
    fields := [{ id := "name", type := .text, label := "Name", required := true }]
    skeleton }

/-- A form with a name that would end its string, bring in an issuer and open a placeholder. -/
def context : RenderContext :=
  ⟨⟨"did:web:school", []⟩, [("name", .string r#"Eve","issuer":"did:web:{{now"#)]⟩

/-- The members of a skeleton with the context, a placeholder and a number. -/
def members : Json.Object :=
  [("@context", .string credentialContext), ("name", Placeholder.slot "name"),
    ("level", .number (.whole 3))]

/-- A text of such members, with the name of the context in its place. -/
def text : String :=
  r#"{ "@context": "$context", "name": "{{name}}", "level": 3 }"#

theorem exists_eq_ok {ε α : Type} : ∀ {x : Except ε α}, x.toOption.isSome = true → ∃ a, x = .ok a
  | .ok a, _ => ⟨a, rfl⟩

theorem validate_eq_ok {skeleton : Skeleton} :
    (template skeleton).validate ((template skeleton).values context.form) = .ok () := rfl

theorem readsBack : ∀ n, .number n ∈ (Json.object members).leaves → n.ReadsBack := by
  intro n hn
  simp [members, Placeholder.slot, Json.ofText, Json.leaves, Json.memberLeaves] at hn
  subst hn
  rfl

end Specimen
end Issuance

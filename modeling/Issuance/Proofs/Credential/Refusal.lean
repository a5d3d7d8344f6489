import Issuance.Proofs.Credential.Noninterference
import Issuance.Proofs.Credential.Outcome

/-! # Why a rendering is refused

    A rendering is refused for one of three reasons, and each has its own condition. Before all else
    the required fields are looked at in the order of the template, and the first one without a
    value is named. Where all have values, the filled skeleton is read: it is no JSON text, or it is
    a text of a value that is no object. The fields are looked at by their values alone, so filling
    one in never lets an earlier one be named. -/

namespace Issuance

/-- A value that does not count as filled in: there is none, or null, or a string of white space. -/
def Unfilled (v : Option Json) : Prop :=
  v = none ∨ v = some .null ∨ ∃ s : String, v = some (.string s) ∧ ∀ c ∈ s.toList, Text.isBlank c

/-- A text that stands for a value: it writes one no deeper than allowed, and where a name is
    repeated in an object the last member counts. -/
def Json.IsTextOf (text : List Char) (v : Json) : Prop :=
  ∃ written, Json.Writes .Accepted written text ∧ written.depth ≤ Json.depthLimit ∧
    written.merged = v

theorem isMissing_iff {v : Option Json} : isMissing v = true ↔ Unfilled v := by
  cases v with
  | none => simp [isMissing, Unfilled]
  | some w =>
    cases w with
    | string s => simp [isMissing, Unfilled, Text.allBlank]
    | _ => simp [isMissing, Unfilled]

namespace Template

/-- The value of a field: what the form has for it, whatever that is, or else the default. -/
def effective (t : Template) (form : Json.Object) (id : String) : Option Json :=
  (form.get? id).or (t.defaults.get? id)

/-- A field of a template, with the fields before it, that is the first to be required and
    unfilled. -/
structure FirstUnfilled (t : Template) (form : Json.Object) (before : List FieldSpec)
    (f : FieldSpec) : Prop where
  placed : before ++ [f] <+: t.fields
  required : f.required = true
  unfilled : Unfilled (t.effective form f.id)
  filled_before : ∀ e ∈ before, e.required = true → ¬Unfilled (t.effective form e.id)

/-- Every required field of a template is filled in. -/
def AllFilled (t : Template) (form : Json.Object) : Prop :=
  ∀ f ∈ t.fields, f.required = true → ¬Unfilled (t.effective form f.id)

variable {t : Template} {form : Json.Object} {fields before : List FieldSpec} {f : FieldSpec}
  {name : String} {value : Json}

/-! ### The first required field without a value -/

theorem isMissing_values_iff (hnames : form.names.Nodup) (id : String) :
    isMissing ((t.values form).get? id) = true ↔ Unfilled (t.effective form id) := by
  rw [t.get?_values id hnames, isMissing_iff, effective]

/-- The first of some fields at the head of a template that is required and unfilled. -/
theorem firstMissing_eq_some_iff (hnames : form.names.Nodup) (hfields : fields <+: t.fields) :
    firstMissing fields (t.values form) = some f ↔
      ∃ before, before ++ [f] <+: fields ∧ t.FirstUnfilled form before f := by
  have hunmet : ∀ e : FieldSpec, (e.required && isMissing ((t.values form).get? e.id)) = true ↔
      e.required = true ∧ Unfilled (t.effective form e.id) := fun e => by
    rw [Bool.and_eq_true, isMissing_values_iff hnames]
  rw [firstMissing, List.find?_eq_some_iff_append, hunmet]
  constructor
  · rintro ⟨⟨hrequired, hunfilled⟩, before, after, rfl, hbefore⟩
    have hplaced : before ++ [f] <+: before ++ f :: after := ⟨after, by simp⟩
    refine ⟨before, hplaced, hplaced.trans hfields, hrequired, hunfilled, fun e he hreq hunf => ?_⟩
    have hmet := hbefore e he
    rw [(hunmet e).mpr ⟨hreq, hunf⟩] at hmet
    cases hmet
  · rintro ⟨before, ⟨after, rfl⟩, hfirst⟩
    refine ⟨⟨hfirst.required, hfirst.unfilled⟩, before, after, by simp, fun e he => ?_⟩
    rw [Bool.not_eq_true', Bool.eq_false_iff, ne_eq, hunmet, not_and]
    exact hfirst.filled_before e he

theorem firstMissing_eq_none_iff (hnames : form.names.Nodup) :
    firstMissing t.fields (t.values form) = none ↔ t.AllFilled form := by
  rw [firstMissing, List.find?_eq_none]
  refine forall₂_congr fun f _ => ?_
  rw [Bool.and_eq_true, isMissing_values_iff hnames, not_and]

/-- The check names a field just when it is the first that is required and unfilled. -/
theorem validate_eq_error_iff (hnames : form.names.Nodup) {e : Error} :
    t.validate (t.values form) = .error e ↔
      ∃ before f, t.FirstUnfilled form before f ∧ e = .missingRequiredField f.id := by
  rw [validate]
  cases hfirst : firstMissing t.fields (t.values form) with
  | none =>
    have hfilled := (firstMissing_eq_none_iff hnames).mp hfirst
    simp only [reduceCtorEq, false_iff, not_exists, not_and]
    intro before f hunfilled
    have hmem := hunfilled.placed.subset (List.mem_append_right before List.mem_cons_self)
    exact absurd hunfilled.unfilled (hfilled f hmem hunfilled.required)
  | some f =>
    simp only [Except.error.injEq]
    constructor
    · rintro rfl
      obtain ⟨before, -, hunfilled⟩ :=
        (firstMissing_eq_some_iff hnames List.prefix_rfl).mp hfirst
      exact ⟨before, f, hunfilled, rfl⟩
    · rintro ⟨before, g, hunfilled, rfl⟩
      have hsame := (firstMissing_eq_some_iff hnames List.prefix_rfl).mpr
        ⟨before, hunfilled.placed, hunfilled⟩
      rw [hfirst] at hsame
      cases hsame
      rfl

theorem validate_eq_ok_iff_allFilled (hnames : form.names.Nodup) :
    t.validate (t.values form) = .ok () ↔ t.AllFilled form := by
  rw [← firstMissing_eq_none_iff hnames, validate]
  cases firstMissing t.fields (t.values form) <;> simp

/-! ### Filling in a field -/

theorem effective_insert (t : Template) (form : Json.Object) (name id : String) (value : Json) :
    t.effective (form.insert name value) id =
      if name = id then some value else t.effective form id := by
  rw [effective, Json.Object.get?_insert]
  split <;> rfl

/-- A field that is named once another is filled in was unfilled before, and is not the one that was
    filled in. Before that the same field was named, or the one that was filled in and stands
    earlier. -/
theorem FirstUnfilled.of_insert (hnames : form.names.Nodup) (hvalue : ¬Unfilled (some value))
    (h : t.FirstUnfilled (form.insert name value) before f) :
    ∃ before' f', t.FirstUnfilled form before' f' ∧
      (f'.id ≠ name → before' = before ∧ f' = f) ∧ (f'.id = name → before' ++ [f'] <+: before) := by
  have hother : ∀ {e : FieldSpec}, Unfilled (t.effective (form.insert name value) e.id) →
      name ≠ e.id ∧ Unfilled (t.effective form e.id) := by
    intro e he
    rw [effective_insert] at he
    split_ifs at he with hname
    · exact absurd he hvalue
    · exact ⟨hname, he⟩
  obtain ⟨hne, hunfilled⟩ := hother h.unfilled
  have hsome : ∃ f', firstMissing (before ++ [f]) (t.values form) = some f' := by
    rw [← Option.isSome_iff_exists, firstMissing, List.find?_isSome]
    refine ⟨f, by simp, ?_⟩
    rw [h.required, Bool.true_and]
    exact (isMissing_values_iff hnames f.id).mpr hunfilled
  obtain ⟨f', hf'⟩ := hsome
  obtain ⟨before', hplaced, hfirst⟩ := (firstMissing_eq_some_iff hnames h.placed).mp hf'
  refine ⟨before', f', hfirst, fun hid => ?_, ?_⟩ <;>
    rcases List.prefix_concat_iff.mp hplaced with hsame | hearlier
  · obtain ⟨hbefore, hlast⟩ := List.append_inj' hsame rfl
    exact ⟨hbefore, List.singleton_injective hlast⟩
  · -- A field that stands earlier and was not filled in would be named before the other.
    have hmem : f' ∈ before := hearlier.subset (List.mem_append_right before' List.mem_cons_self)
    have hstill : Unfilled (t.effective (form.insert name value) f'.id) := by
      rw [effective_insert, if_neg (Ne.symm hid)]
      exact hfirst.unfilled
    exact absurd hstill (h.filled_before f' hmem hfirst.required)
  · have hlast : f' = f := List.singleton_injective (List.append_inj_right' hsame rfl)
    rw [hlast]
    exact fun hid => absurd hid.symm hne
  · exact fun _ => hearlier

end Template

/-! ### The filled skeleton -/

theorem Json.parse_eq_ok_iff_isTextOf {text : List Char} {v : Json} :
    Json.parse text = .ok v ↔ Json.IsTextOf text v := Json.parse_eq_ok_iff

/-- What is read of a text that is no JSON is the place and the kind of the fault. -/
theorem readBody_eq_renderFailure_iff {text : List Char} {d : Json.Diagnostic} :
    readBody text = .error (.renderFailure d) ↔ Json.parse text = .error d := by
  rw [readBody]
  cases Json.parse text with
  | error e => simp
  | ok v => cases v <;> simp

theorem readBody_eq_bodyNotObject_iff {text : List Char} {v : Json} :
    readBody text = .error (.bodyNotObject v) ↔
      Json.IsTextOf text v ∧ ∀ members, v ≠ .object members := by
  rw [← Json.parse_eq_ok_iff_isTextOf, readBody]
  cases Json.parse text with
  | error e => simp
  | ok w =>
    cases w with
    | object members =>
      simp only [reduceCtorEq, Except.ok.injEq, false_iff, not_and, not_forall, not_not]
      exact fun h => ⟨members, h.symm⟩
    | _ =>
      simp only [Except.error.injEq, Error.bodyNotObject.injEq, Except.ok.injEq, iff_self_and]
      rintro rfl members ⟨⟩

/-! ### The end of a rendering -/

/-- How a rendering ends for a form, if its filled skeleton is a given text. It reports a required
    field just when that is the first unfilled one; else it fails just when the text is no JSON, or
    stands for a value that is no object. -/
structure Template.Ends (t : Template) (form : Json.Object) (text : List Char)
    (outcome : Except Error Credential) : Prop where
  missing : ∀ id, outcome = .error (.missingRequiredField id) ↔
    ∃ before f, t.FirstUnfilled form before f ∧ f.id = id
  fault : ∀ d, outcome = .error (.renderFailure d) ↔
    t.AllFilled form ∧ Json.parse text = .error d
  notJson : (∃ d, outcome = .error (.renderFailure d)) ↔
    t.AllFilled form ∧ ¬∃ v, Json.IsTextOf text v
  notObject : ∀ v, outcome = .error (.bodyNotObject v) ↔
    t.AllFilled form ∧ Json.IsTextOf text v ∧ ∀ members, v ≠ .object members
  credential : (∃ credential, outcome = .ok credential) ↔
    t.AllFilled form ∧ ∃ members, Json.IsTextOf text (.object members)
  noOther : ∀ e, outcome = .error e → (∃ id, e = .missingRequiredField id) ∨
    (∃ d, e = .renderFailure d) ∨ ∃ v, e = .bodyNotObject v

namespace Renderer

variable {r : Renderer} {t : Template} {ctx : RenderContext} {u : Usage}

/-- A rendering fails with what the check says, or if the check passes with what the reading says. -/
theorem outcome_eq_error_iff {e : Error} : (r.render t ctx u).result.outcome = .error e ↔
    t.validate (t.values ctx.form) = .error e ∨ t.validate (t.values ctx.form) = .ok () ∧
      readBody (t.filled r.escaping (r.builtins u) ctx) = .error e := by
  cases hvalid : t.validate (t.values ctx.form) with
  | error e' => simp [outcome_of_validate_error hvalid]
  | ok =>
    cases hbody : readBody (t.filled r.escaping (r.builtins u) ctx) with
    | error e' => simp [outcome_of_readBody_error hvalid hbody]
    | ok body => simp [outcome_of_readBody hvalid hbody]

theorem outcome_eq_missing_iff (hnames : ctx.form.names.Nodup) {id : String} :
    (r.render t ctx u).result.outcome = .error (.missingRequiredField id) ↔
      ∃ before f, t.FirstUnfilled ctx.form before f ∧ f.id = id := by
  rw [outcome_eq_error_iff, Template.validate_eq_error_iff hnames]
  constructor
  · rintro (⟨before, f, hfirst, hid⟩ | ⟨-, hbody⟩)
    · cases hid
      exact ⟨before, f, hfirst, rfl⟩
    · rcases readBody_error_cases hbody with ⟨d, hd⟩ | ⟨v, hv⟩
      · cases hd
      · cases hv
  · rintro ⟨before, f, hfirst, rfl⟩
    exact .inl ⟨before, f, hfirst, rfl⟩

/-- Any other error comes of the filled skeleton, once all required fields are filled in. -/
theorem outcome_eq_error_iff_of_ne_missing (hnames : ctx.form.names.Nodup) {e : Error}
    (he : ∀ id, e ≠ .missingRequiredField id) : (r.render t ctx u).result.outcome = .error e ↔
      t.AllFilled ctx.form ∧ readBody (t.filled r.escaping (r.builtins u) ctx) = .error e := by
  rw [outcome_eq_error_iff, Template.validate_eq_error_iff hnames,
    Template.validate_eq_ok_iff_allFilled hnames, or_iff_right]
  rintro ⟨before, f, -, hid⟩
  exact he f.id hid

/-- A rendering ends in a credential just when the check passes and an object is read. -/
theorem exists_outcome_eq_ok_iff (hnames : ctx.form.names.Nodup) :
    (∃ credential, (r.render t ctx u).result.outcome = .ok credential) ↔ t.AllFilled ctx.form ∧
      ∃ body, readBody (t.filled r.escaping (r.builtins u) ctx) = .ok body := by
  rw [← Template.validate_eq_ok_iff_allFilled hnames]
  cases hvalid : t.validate (t.values ctx.form) with
  | error e => simp [outcome_of_validate_error hvalid]
  | ok =>
    cases hbody : readBody (t.filled r.escaping (r.builtins u) ctx) with
    | error e => simp [outcome_of_readBody_error hvalid hbody]
    | ok body => simp [outcome_of_readBody hvalid hbody]

theorem ends_outcome (r : Renderer) (t : Template) (ctx : RenderContext) (u : Usage)
    (hnames : ctx.form.names.Nodup) :
    t.Ends ctx.form (t.filled r.escaping (r.builtins u) ctx)
      (r.render t ctx u).result.outcome := by
  have hfault : ∀ d, (r.render t ctx u).result.outcome = .error (.renderFailure d) ↔
      t.AllFilled ctx.form ∧ Json.parse (t.filled r.escaping (r.builtins u) ctx) = .error d := by
    intro d
    rw [outcome_eq_error_iff_of_ne_missing hnames (by simp), readBody_eq_renderFailure_iff]
  refine ⟨fun id => outcome_eq_missing_iff hnames, hfault, ?_, fun v => ?_, ?_, fun e he => ?_⟩
  · simp only [hfault, exists_and_left, ← Json.parse_eq_ok_iff_isTextOf]
    cases Json.parse (t.filled r.escaping (r.builtins u) ctx) <;> simp
  · rw [outcome_eq_error_iff_of_ne_missing hnames (by simp), readBody_eq_bodyNotObject_iff]
  · simp only [exists_outcome_eq_ok_iff hnames, readBody_eq_ok_iff, Json.parse_eq_ok_iff_isTextOf]
  · rcases outcome_eq_error_iff.mp he with hvalid | ⟨-, hbody⟩
    · obtain ⟨before, f, -, rfl⟩ := (Template.validate_eq_error_iff hnames).mp hvalid
      exact .inl ⟨f.id, rfl⟩
    · exact .inr (readBody_error_cases hbody)

/-- What a rendering fails with is told by the fields, the form and the filled skeleton, the fields
    before all else. And when a field is filled in, the rendering reports no required field but the
    one that it reported before, or one behind it if that was the field that was filled in. -/
theorem refused_iff (r : Renderer) (t : Template) (ctx : RenderContext) (u : Usage)
    (hnames : ctx.form.names.Nodup) :
    t.Ends ctx.form (t.filled r.escaping (r.builtins u) ctx)
      (r.render t ctx u).result.outcome ∧
    ∀ name value id, ¬Unfilled (some value) →
      (r.render t { ctx with form := ctx.form.insert name value } u).result.outcome =
        .error (.missingRequiredField id) →
      ∃ before g before' f, t.FirstUnfilled (ctx.form.insert name value) before g ∧ g.id = id ∧
        t.FirstUnfilled ctx.form before' f ∧
        (r.render t ctx u).result.outcome = .error (.missingRequiredField f.id) ∧
        (f.id ≠ name → before' = before ∧ f = g) ∧ (f.id = name → before' ++ [f] <+: before) := by
  refine ⟨ends_outcome r t ctx u hnames, fun name value id hvalue hreported => ?_⟩
  obtain ⟨before, g, hg, hid⟩ :=
    (outcome_eq_missing_iff (Json.Object.nodup_names_insert hnames name value)).mp hreported
  obtain ⟨before', f, hf, hsame, hearlier⟩ := hg.of_insert hnames hvalue
  exact ⟨before, g, before', f, hg, hid, hf,
    (outcome_eq_missing_iff hnames).mpr ⟨before', f, hf, rfl⟩, hsame, hearlier⟩

end Renderer

namespace Specimen

def nameField : FieldSpec := { id := "name", type := .text, label := "Name", required := true }

def levelField : FieldSpec := { id := "level", type := .number, label := "Level", required := true }

/-- A template that asks for a name, for which it has a default, and a level. -/
def graded : Template :=
  { template (.object members) with
    fields := [nameField, levelField]
    defaults := [("name", .string "Eve")] }

/-- A form with a name and nothing else. -/
def named (name : String) : RenderContext := ⟨⟨"did:web:school", []⟩, [("name", .string name)]⟩

end Specimen

/-- A blank name hides the default, so the name is reported; once it is filled in, the level is. -/
theorem Renderer.refused_iff_specimen :
    ((Specimen.renderer .verbatim).render Specimen.graded (Specimen.named " ") {}).result.outcome =
      .error (.missingRequiredField "name") ∧
    ((Specimen.renderer .verbatim).render Specimen.graded (Specimen.named "Ada") {}).result.outcome
      = .error (.missingRequiredField "level") ∧
    ∃ before g before' f,
      Specimen.graded.FirstUnfilled (Specimen.named "Ada").form before g ∧ g.id = "level" ∧
      Specimen.graded.FirstUnfilled (Specimen.named " ").form before' f ∧
      (f.id = "name" → before' ++ [f] <+: before) := by
  have hnodup : ∀ name, (Specimen.named name).form.names.Nodup := fun _ => List.nodup_singleton _
  have hblank : Specimen.graded.FirstUnfilled (Specimen.named " ").form [] Specimen.nameField :=
    ⟨⟨[Specimen.levelField], rfl⟩, rfl,
      .inr (.inr ⟨" ", rfl, Text.forall_mem_of_all (by decide)⟩), by simp⟩
  have hada : ¬Unfilled (some (.string "Ada")) := by
    rw [← isMissing_iff]
    decide
  have hlevel : Specimen.graded.FirstUnfilled (Specimen.named "Ada").form [Specimen.nameField]
      Specimen.levelField := by
    refine ⟨List.prefix_rfl, rfl, .inl rfl, fun e he _ => ?_⟩
    rw [List.mem_singleton.mp he]
    exact hada
  have hbefore := Renderer.refused_iff (Specimen.renderer .verbatim) Specimen.graded
    (Specimen.named " ") {} (hnodup " ")
  have hafter := Renderer.refused_iff (Specimen.renderer .verbatim) Specimen.graded
    (Specimen.named "Ada") {} (hnodup "Ada")
  have hreported := (hafter.1.missing "level").mpr ⟨_, _, hlevel, rfl⟩
  obtain ⟨before, g, before', f, hg, hid, hf, -, -, hearlier⟩ :=
    hbefore.2 "name" (.string "Ada") "level" hada hreported
  exact ⟨(hbefore.1.missing "name").mpr ⟨_, _, hblank, rfl⟩, hreported,
    before, g, before', f, hg, hid, hf, hearlier⟩

end Issuance

import Issuance.Proofs.Credential.FieldName
import Issuance.Proofs.Credential.Refusal
import Issuance.Proofs.Json.Compact
import Issuance.Proofs.Json.Frame

/-! # Values in place of placeholders

    A placeholder of a text may stand outside of string literals, where a value is asked for. What
    is put in for a number, a truth value, an array or an object is its compact form, which is a
    text of the value wherever a value may stand. So the filled text stands for the object that it
    would stand for with a null in that place, with the value instead of the null. The strings in
    the value are never looked at. -/

namespace Issuance

open Placeholder (ofPath opening)

namespace Template

variable {t : Template} {k : String} {p q : List Char} {b : Placeholder.Builtins}
  {ctx : RenderContext} {v : Json}

/-- A text that asks for nothing, and does not name the context, is left as it is. -/
theorem filled_withText_eq_self (hopening : ¬opening <:+: p) (hcontext : ¬contextLiteral <:+: p)
    (escaping : Placeholder.Escaping) : (t.withText p).filled escaping b ctx = p := by
  have hsource : (t.withText p).source = p := by
    cases hc : t.context with
    | none => simp [source, withText, hc]
    | some c => simp [source, withText, hc, Text.replace_eq_self hcontext]
  rw [filled, hsource, Placeholder.fillAll_eq_self (Placeholder.asksNothing_of_no_opening hopening)]

/-- A value other than a string or null is shown in its compact form. -/
theorem shown_eq_compact (hnull : v ≠ .null) (hstring : ∀ s, v ≠ .string s) :
    Placeholder.shown v = v.compact := by
  cases v with
  | null => exact absurd rfl hnull
  | string s => exact absurd rfl (hstring s)
  | _ => rfl

/-- The placeholder of a field becomes the compact form of its value. -/
theorem filled_around_askable (hk : Askable k) (hp : ¬opening <:+: p) (hq : ¬opening <:+: q)
    (hp' : ¬contextLiteral <:+: p) (hq' : ¬contextLiteral <:+: q) (hnames : ctx.form.names.Nodup)
    (hget : ctx.form.get? k = some v) (hnull : v ≠ .null) (hstring : ∀ s, v ≠ .string s) :
    (t.withText (p ++ (ofPath k.toList ++ q))).filled .verbatim b ctx = p ++ (v.compact ++ q) := by
  rw [filled_withText_around (hk.hasPath _) (hk.not_mem (by decide)) (hk.toList_ne (by decide))
    (hk.toList_ne (by decide)), filled_withText_eq_self hp hp', filled_withText_eq_self hq hq',
    hk.fill_scope _ hnames hget, shown_eq_compact hnull hstring]
  rfl

end Template

/-- A text whose placeholder stands where a value is asked for is rendered to the object that it
    stands for with the value. Which object this is, is told by the text alone: it is framed by what
    stands before the placeholder and behind it, and with null for the value it is the object that
    the text stands for with null. -/
theorem Renderer.outcome_of_unquoted (t : Template) (k : String) (p q : List Char)
    (members : Json.Object) (hk : Askable k) (hp : ¬opening <:+: p) (hq : ¬opening <:+: q)
    (hp' : ¬Template.contextLiteral <:+: p) (hq' : ¬Template.contextLiteral <:+: q)
    (hwrites : Json.Writes .Accepted (.object members) (p ++ ("null".toList ++ q)))
    (hdistinct : (Json.object members).Distinct) (hplace : Json.endsQuoted false p = false) :
    ∃ f : Json.Frame, f.plug .null = .object members ∧ f.Between p q ∧
      ∀ (r : Renderer) (ctx : RenderContext) (u : Usage) (v : Json), r.escaping = .verbatim →
        ctx.form.names.Nodup → t.AllFilled ctx.form → ctx.form.get? k = some v → v ≠ .null →
        (∀ s, v ≠ .string s) → v.Distinct → (∀ n, .number n ∈ v.leaves → n.ReadsBack) →
        (f.plug v).depth ≤ Json.depthLimit →
        ∃ body, f.plug v = .object body ∧
          readBody ((t.withText (p ++ (ofPath k.toList ++ q))).filled r.escaping (r.builtins u) ctx)
            = .ok body ∧
          (r.render (t.withText (p ++ (ofPath k.toList ++ q))) ctx u).result.outcome =
            .ok ⟨t.toSummary,
              complete ctx.org.did (r.clock u.clockReads) (r.ids (u.idsTaken + 1)) body⟩ := by
  obtain ⟨f, hf, hbetween⟩ := Json.exists_between hwrites hplace
  refine ⟨f, hf, hbetween, fun r ctx u v hescaping hnames hfilled hget hnull hstring hv hnumbers
    hdepth => ?_⟩
  obtain ⟨body, hbody⟩ : ∃ body, f.plug v = .object body :=
    Json.Frame.exists_object_plug hf fun _ => by simp
  have htext : Json.Writes .Accepted (f.plug v) (p ++ (v.compact ++ q)) :=
    hbetween ((Json.derives_compact hnumbers).mono fun _ _ => Json.accepted_of_canonical)
  have hmerged : (f.plug v).merged = f.plug v :=
    Json.merged_eq_self (Json.Frame.distinct_plug hv (hf ▸ hdistinct))
  have hread : readBody ((t.withText (p ++ (ofPath k.toList ++ q))).filled r.escaping (r.builtins u)
      ctx) = .ok body := by
    rw [hescaping, Template.filled_around_askable hk hp hq hp' hq' hnames hget hnull hstring,
      readBody_eq_ok_iff, Json.parse_eq_ok_iff, ← hbody]
    exact ⟨f.plug v, htext, hdepth, hmerged⟩
  have hvalid := (Template.validate_eq_ok_iff_allFilled
    (t := t.withText (p ++ (ofPath k.toList ++ q))) hnames).mpr hfilled
  exact ⟨body, hbody, hread, outcome_of_readBody hvalid hread⟩

namespace Specimen

/-- A list that holds an object and a text that looks like a placeholder. -/
def list : Json := .array [.object [("b", .bool true)], .string r#""{{now}}"#]

def holder : RenderContext := ⟨⟨"did:web:school", []⟩, [("data", list), ("name", .string "Ada")]⟩

/-- A frame whose place is the only member of an object. -/
theorem plug_of_member {f : Json.Frame} (h : f.plug .null = .object [("a", .null)]) (v : Json) :
    f.plug v = .object [("a", v)] := by
  have hhere : ∀ {g : Json.Frame}, g.plug .null = .null → g.plug v = v := fun {g} hg => by
    cases g <;> first | rfl | cases hg
  cases f with
  | here => cases h
  | array _ _ _ => cases h
  | object before name inner after =>
    cases before with
    | nil =>
      obtain ⟨hmember, rfl⟩ := List.cons.inj (Json.object.inj h)
      obtain ⟨rfl, hinner⟩ := Prod.mk.inj hmember
      rw [Json.Frame.plug, hhere hinner]
      rfl
    | cons m before => simp [Json.Frame.plug] at h

end Specimen

/-- A list for which the text asks right before its closing brace. -/
theorem Renderer.outcome_of_unquoted_specimen :
    ((Specimen.renderer .verbatim).render ((Specimen.template (.object [])).withText
        (r#"{"a":"#.toList ++ (ofPath "data".toList ++ r"}".toList))) Specimen.holder
        {}).result.outcome =
      .ok ⟨(Specimen.template (.object [])).toSummary,
        complete "did:web:school" ⟨0, 0⟩ "id-2" [("a", Specimen.list)]⟩ := by
  have hk : Askable "data" := ⟨by decide, Text.forall_mem_of_all (by decide), by decide⟩
  have hwrites : Json.Writes .Accepted (.object [("a", .null)])
      (r#"{"a":"#.toList ++ ("null".toList ++ r"}".toList)) :=
    Json.writes_compact (v := .object [("a", .null)])
      (by simp [Json.leaves, Json.memberLeaves])
  obtain ⟨f, hf, -, hrender⟩ := Renderer.outcome_of_unquoted (Specimen.template (.object []))
    "data" r#"{"a":"#.toList r"}".toList [("a", .null)] hk (by decide) (by decide) (by decide)
    (by decide) hwrites ⟨List.nodup_singleton _, trivial, trivial⟩ (by decide)
  have hplug := Specimen.plug_of_member hf Specimen.list
  have hfilled : (Specimen.template (.object [])).AllFilled Specimen.holder.form :=
    (Template.validate_eq_ok_iff_allFilled (by decide)).mp rfl
  have hdistinct : Specimen.list.Distinct :=
    ⟨⟨List.nodup_singleton _, trivial, trivial⟩, trivial, trivial⟩
  have hnumbers : ∀ n, .number n ∈ Specimen.list.leaves → n.ReadsBack := by
    simp [Specimen.list, Json.leaves, Json.itemLeaves, Json.memberLeaves]
  obtain ⟨body, hbody, -, houtcome⟩ := hrender (Specimen.renderer .verbatim) Specimen.holder {}
    Specimen.list rfl (by decide) hfilled rfl (by rintro ⟨⟩) (by rintro s ⟨⟩) hdistinct hnumbers
    (by rw [hplug]; decide)
  rw [hplug] at hbody
  obtain rfl := Json.object.inj hbody
  exact houtcome

end Issuance

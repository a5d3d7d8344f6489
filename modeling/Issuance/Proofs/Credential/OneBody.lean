import Issuance.Proofs.Credential.ContextLiteral
import Issuance.Proofs.Credential.Outcome
import Issuance.Proofs.Placeholder.Respacing
import Issuance.Proofs.Template.BodyText

/-! # One body rendered from two formats

    A WPML template and a WPT template with one summary and one body are filled to texts that differ
    in white space behind line feeds alone, whatever the values put in hold. So both texts are read
    as the same object, or both are refused for the same reason. -/

namespace Issuance

open Json (Respaced)

variable {s t : List Char} {sectioned directed : Template}

/-- The string that stands for the context lies within a line. -/
theorem Template.inline_contextLiteral : Text.Inline (Text.literal contextLiteral) := by
  rw [contextLiteral_eq]
  exact Text.inline_literal (by decide) (by decide)

/-- Two texts of one summary are filled alike. -/
theorem Template.respaced_filled {text text' : String}
    (hsummary : sectioned.toSummary = directed.toSummary) (htext : sectioned.skeleton = .text text)
    (htext' : directed.skeleton = .text text') (h : Respaced text.toList text'.toList)
    (escaping : Placeholder.Escaping) (b : Placeholder.Builtins) (ctx : RenderContext) :
    Respaced (sectioned.filled escaping b ctx) (directed.filled escaping b ctx) := by
  have hgrammar : sectioned.grammar = directed.grammar := by
    rw [grammar, grammar, htext, htext']
  have hscope : sectioned.scope ctx = directed.scope ctx := by
    simp only [scope, values, htext, htext', hsummary]
    cases directed.context <;> rfl
  have hsource : Respaced sectioned.source directed.source := by
    simp only [source, htext, htext', hsummary]
    cases directed.context with
    | none => exact h
    | some c => exact inline_contextLiteral.respaced_fillPieces _ h
  rw [filled, filled, hgrammar, hscope]
  exact Placeholder.respaced_fillAll _ _ _ _ hsource

/-- Two texts that differ in white space behind line feeds are read as the same object, or refused
    for the same reason. -/
theorem readBody_of_respaced (h : Respaced s t) :
    (∃ body, readBody s = .ok body ∧ readBody t = .ok body) ∨
      (∃ v, readBody s = .error (.bodyNotObject v) ∧ readBody t = .error (.bodyNotObject v)) ∨
      ∃ d d', readBody s = .error (.renderFailure d) ∧ readBody t = .error (.renderFailure d') := by
  cases hs : Json.parse s with
  | ok v =>
    have ht := (Json.parse_eq_ok_iff_of_respaced h).mp hs
    cases v with
    | object members => exact .inl ⟨members, by rw [readBody, hs], by rw [readBody, ht]⟩
    | _ => exact .inr (.inl ⟨_, by rw [readBody, hs], by rw [readBody, ht]⟩)
  | error d =>
    cases ht : Json.parse t with
    | ok v =>
      rw [(Json.parse_eq_ok_iff_of_respaced h).mpr ht] at hs
      cases hs
    | error d' => exact .inr (.inr ⟨d, d', by rw [readBody, hs], by rw [readBody, ht]⟩)

/-- A body behind a WPML header and behind a WPT header for the same summary makes two templates
    that render alike: to the same body, or to errors of one kind. This holds whatever the values
    put in hold, and however they are put in. -/
theorem Renderer.outcome_agree_of_heads {header header' content : List Char} {summary : Summary}
    (h : Wpml.Heads header summary) (h' : Wpt.Heads header' summary) (hbody : IsBodyText content) :
    ∃ sectioned directed,
      (Template.load .wpml (Wpml.withBody header content)).outcome = .ok sectioned ∧
      (Template.load .wpt (Wpt.withBody header' content)).outcome = .ok directed ∧
      sectioned.toSummary = summary ∧ directed.toSummary = summary ∧
      ∀ (r : Renderer) (ctx : RenderContext) (u : Usage),
        let one := (r.render sectioned ctx u).result.outcome
        let other := (r.render directed ctx u).result.outcome
        (∃ body, one = .ok ⟨summary, body⟩ ∧ other = .ok ⟨summary, body⟩) ∨
          (∃ id, one = .error (.missingRequiredField id) ∧
            other = .error (.missingRequiredField id)) ∨
          (∃ v, one = .error (.bodyNotObject v) ∧ other = .error (.bodyNotObject v)) ∨
          ∃ d d', one = .error (.renderFailure d) ∧ other = .error (.renderFailure d') := by
  obtain ⟨sectioned, hload, hsummary, hskeleton⟩ := Wpml.template_withBody h hbody
  obtain ⟨directed, hload', hsummary', hskeleton'⟩ := Wpt.template_withBody h' hbody
  refine ⟨sectioned, directed, refuse_eq_ok_iff.mpr hload, refuse_eq_ok_iff.mpr hload', hsummary,
    hsummary', fun r ctx u => ?_⟩
  have hsame : sectioned.toSummary = directed.toSummary := hsummary.trans hsummary'.symm
  have hvalid : directed.validate (directed.values ctx.form) =
      sectioned.validate (sectioned.values ctx.form) := by
    simp only [Template.validate, Template.values, hsame]
  have hfilled := Template.respaced_filled hsame hskeleton hskeleton'
    (by simpa using hbody.respaced) r.escaping (r.builtins u) ctx
  dsimp only
  rcases sectioned.validate_eq_ok_or (sectioned.values ctx.form) with hok | ⟨id, herror⟩
  · have hok' := hvalid.trans hok
    rcases readBody_of_respaced hfilled with
      ⟨body, hread, hread'⟩ | ⟨v, hread, hread'⟩ | ⟨d, d', hread, hread'⟩
    · refine .inl ⟨_, hsummary ▸ outcome_of_readBody hok hread, ?_⟩
      exact hsummary' ▸ outcome_of_readBody hok' hread'
    · exact .inr (.inr (.inl ⟨v, outcome_of_readBody_error hok hread,
        outcome_of_readBody_error hok' hread'⟩))
    · exact .inr (.inr (.inr ⟨d, d', outcome_of_readBody_error hok hread,
        outcome_of_readBody_error hok' hread'⟩))
  · exact .inr (.inl ⟨id, outcome_of_validate_error herror,
      outcome_of_validate_error (hvalid.trans herror)⟩)

/-! ### A body to look at -/

namespace Specimen

/-- A header of sections for the summary of the templates. -/
def sectionedHeader : List Char :=
  (["@key: card", "@name: Card", "@context: v1", "[fields]", "name:text:Name:required"].map
    String.toList).flatMap Text.lineOf

/-- A header of directives for it. -/
def directedHeader : List Char :=
  (["@name: Card", "@field name: text required label=\"Name\"", "@context: v1", "@key: card"].map
    String.toList).flatMap Text.lineOf

/-- A body with blank lines before it, in the middle of it and behind a placeholder. -/
def content : List Char :=
  ([" \t", r#"{ "name":"#, "", r#""{{name}}""#, "\r", r"}"].map
    String.toList).flatMap Text.lineOf

/-- The summary of both headers. -/
def summary : Summary :=
  { key := "card"
    name := "Card"
    context := some "v1"
    fields := [{ id := "name", type := .text, label := "Name", required := true }] }

/-- Some template has the summary when its parts are those of the summary. -/
theorem map_toSummary_of_parts {x : Except Error Template}
    (h : x.toOption.map (fun t => (t.key, t.name, t.context, t.fields, t.defaults.names)) =
      some (summary.key, summary.name, summary.context, summary.fields, [])) :
    x.map Template.toSummary = .ok summary := by
  cases x with
  | error e => cases h
  | ok t =>
    obtain ⟨⟨key, name, context, fields, defaults⟩, skeleton⟩ := t
    simp only [Except.toOption, Option.map_some, Option.some.injEq, Prod.mk.injEq] at h
    obtain ⟨rfl, rfl, rfl, rfl, hnames⟩ := h
    rw [List.map_eq_nil_iff.mp hnames]
    rfl

theorem heads_sectioned : Wpml.Heads sectionedHeader summary where
  endsLine := Text.endsLine_flatMap_lineOf _
  no_body := by decide +kernel
  summary := map_toSummary_of_parts (by decide +kernel)

theorem heads_directed : Wpt.Heads directedHeader summary where
  endsLine := Text.endsLine_flatMap_lineOf _
  no_separator := by decide +kernel
  summary := map_toSummary_of_parts (by decide +kernel)

theorem isBodyText_content : IsBodyText content where
  not_blank := by decide +kernel
  no_marker := by decide +kernel
  blank_lines := by
    have hall : ∀ line ∈ Text.lines content, Text.allBlank line = true →
        line.all (fun c => decide (c = ' ' ∨ c = '\t' ∨ c = '\r')) = true := by
      decide +kernel
    intro line hline hblank
    exact Text.forall_mem_of_all (hall line hline hblank)

end Specimen

/-- The blank lines make no difference, nor does a name that ends its string. -/
theorem Renderer.outcome_agree_of_heads_specimen : ∃ sectioned directed body,
    (Template.load .wpml (Wpml.withBody Specimen.sectionedHeader Specimen.content)).outcome =
      .ok sectioned ∧
    (Template.load .wpt (Wpt.withBody Specimen.directedHeader Specimen.content)).outcome =
      .ok directed ∧
    ((Specimen.renderer .verbatim).render sectioned Specimen.context {}).result.outcome =
      .ok ⟨Specimen.summary, body⟩ ∧
    ((Specimen.renderer .verbatim).render directed Specimen.context {}).result.outcome =
      .ok ⟨Specimen.summary, body⟩ := by
  obtain ⟨sectioned, directed, hload, hload', -, -, hagree⟩ :=
    outcome_agree_of_heads Specimen.heads_sectioned Specimen.heads_directed
      Specimen.isBodyText_content
  have hrendered : ((Template.load .wpml
      (Wpml.withBody Specimen.sectionedHeader Specimen.content)).outcome.bind fun t =>
        ((Specimen.renderer .verbatim).render t Specimen.context {}).result.outcome
      ).toOption.isSome = true := by
    decide +kernel
  rw [hload] at hrendered
  obtain ⟨cred, hcred⟩ := Specimen.exists_eq_ok hrendered
  change ((Specimen.renderer .verbatim).render sectioned Specimen.context {}).result.outcome =
    .ok cred at hcred
  have hcases := hagree (Specimen.renderer .verbatim) Specimen.context {}
  simp only [hcred, reduceCtorEq, false_and, exists_false, or_false] at hcases
  obtain ⟨body, hone, hother⟩ := hcases
  exact ⟨sectioned, directed, body, hload, hload', hcred.trans hone, hother⟩

end Issuance

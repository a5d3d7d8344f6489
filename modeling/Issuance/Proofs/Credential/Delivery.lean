import Issuance.Proofs.Credential.GeneratedSkeleton
import Issuance.Proofs.Credential.Refusal

/-! # Which ids deliver their values

    A field is required under its id and asked for by a path. The value of a form comes through the
    placeholder of its own id just when the id is such a path. For any other id the placeholder
    finds the same whatever the value is: no path in its text starts with the whole id, or the id is
    reserved. So at most one value comes through, though all of them but blank ones pass the
    check. -/

namespace Issuance

open Placeholder (Builtins ofPath slot firstName)

namespace Template

/-- The template with one placeholder in its skeleton, and without defaults. -/
def asking (t : Template) (k : String) : Template :=
  { t with skeleton := .object [("a", .object [("v", slot k)])], defaults := [] }

end Template

/-- An organization and a form with one value. -/
def RenderContext.single (org : Organization) (k v : String) : RenderContext := ⟨org, [(k, .string v)]⟩

/-- What a rendering with one value puts in place of the placeholder of its id, if it succeeds. -/
def Renderer.deliveredFor (r : Renderer) (t : Template) (org : Organization) (u : Usage)
    (k v : String) : Option Json :=
  (r.render (t.asking k) (.single org k v) u).result.outcome.toOption.bind fun cred =>
    (cred.body.get? "a").bind (·.member? "v")

/-- A renderer whose values are escaped and whose ids are of letters, digits and dashes. -/
structure Renderer.Plain (r : Renderer) : Prop where
  escaping : r.escaping = .jsonString
  ids : ∀ n, ∀ c ∈ (r.ids n).toList, c.isAlphanum = true ∨ c = '-'

variable {t : Template} {org : Organization} {k v : String} {b : Builtins} {r : Renderer}
  {path : List Char}

/-! ### The text of the placeholder -/

/-- What the placeholder of an id is filled to. -/
def Template.comesThrough (t : Template) (org : Organization) (b : Builtins) (k v : String) :
    String :=
  Placeholder.verbatimFilled (t.asking k).grammar b ((t.asking k).scope (.single org k v))
    (String.ofList (ofPath k.toList))

theorem get?_scope_asking (name : String) : ((t.asking k).scope (.single org k v)).get? name =
    if "org" = name then some org.toJson else if k = name then some (.string v) else none := by
  have hnames : (RenderContext.single org k v).form.names.Nodup := List.nodup_singleton k
  have hscope : (t.asking k).scope (.single org k v) =
      ((t.asking k).values (RenderContext.single org k v).form).insert "org" org.toJson := rfl
  rw [hscope, Json.Object.get?_insert, Template.get?_values _ name hnames]
  by_cases hname : k = name <;>
    simp [RenderContext.single, Json.Object.get?, Template.asking, hname]

theorem comesThrough_of_askable (h : Askable k) : t.comesThrough org b k v = v := by
  have hnames : (RenderContext.single org k v).form.names.Nodup := List.nodup_singleton k
  have hget : (RenderContext.single org k v).form.get? k = some (.string v) := by
    simp [RenderContext.single, Json.Object.get?]
  rw [Template.comesThrough, Placeholder.verbatimFilled_ofPath (h.hasPath _)
    (h.toList_ne (by decide)) (h.toList_ne (by decide)), h.fill_scope (t.asking k) hnames hget]
  exact String.ofList_toList

/-- The name that a path starts with has the characters of ids. -/
theorem isIdChar_of_mem_firstName (hpath : Placeholder.Grammar.HasPath { dollar := false } path) :
    ∀ c ∈ (firstName path).toList, isIdChar c = true := by
  cases hpath with
  | plain _ hchars =>
    intro c hc
    rw [firstName, String.toList_ofList] at hc
    have hdot := List.mem_takeWhile_imp (p := (· != '.')) hc
    exact isIdChar_of_isPathChar (hchars c ((List.takeWhile_prefix _).subset hc))
      (by simpa using hdot)
  | dollar hdollar _ _ => cases hdollar

/-- An id that is no path has no path look its value up, unless the organization is put over it. -/
theorem get?_scope_asking_congr (hpath : Placeholder.Grammar.HasPath { dollar := false } path)
    (h : ¬Askable k) (hempty : k ≠ "") (htime : k ≠ "now") (hid : k ≠ "uuid") (v w : String) :
    ((t.asking k).scope (.single org k v)).get? (firstName path) =
      ((t.asking k).scope (.single org k w)).get? (firstName path) := by
  rw [get?_scope_asking, get?_scope_asking]
  by_cases horg : "org" = firstName path
  · rw [if_pos horg, if_pos horg]
  by_cases hname : k = firstName path
  · have hchars := isIdChar_of_mem_firstName hpath
    rw [← hname] at hchars horg
    refine absurd ⟨hempty, hchars, ?_⟩ h
    simp [htime, hid, Ne.symm horg]
  · rw [if_neg horg, if_neg horg, if_neg hname, if_neg hname]

/-- The placeholder of an id that it cannot ask for is filled alike for all values. The empty id
    makes no placeholder, two ids make those of the time and the id of the rendering, and under any
    other one no path looks, or the organization is put over the value. -/
theorem comesThrough_congr (hnow : '{' ∉ b.now) (huuid : '{' ∉ b.uuid) (h : ¬Askable k)
    (v w : String) : t.comesThrough org b k v = t.comesThrough org b k w := by
  rw [Template.comesThrough, Template.comesThrough]
  by_cases hempty : k = ""
  · have hnothing : Placeholder.Grammar.AsksNothing { dollar := false } (ofPath []) :=
      Placeholder.asksNothing_iff.mpr (by decide)
    have hself : ∀ v, Placeholder.verbatimFilled (t.asking "").grammar b
        ((t.asking "").scope (.single org "" v)) (String.ofList (ofPath [])) =
          String.ofList (ofPath []) :=
      fun v => Placeholder.verbatimFilled_eq_self (by rwa [String.toList_ofList])
    rw [hempty]
    exact (hself v).trans (hself w).symm
  by_cases htime : k = "now"
  · rw [htime]
    exact (Placeholder.verbatimFilled_now hnow).trans (Placeholder.verbatimFilled_now hnow).symm
  by_cases hid : k = "uuid"
  · rw [hid]
    exact (Placeholder.verbatimFilled_uuid huuid).trans (Placeholder.verbatimFilled_uuid huuid).symm
  refine congrArg String.ofList (Placeholder.fillAll_congr .verbatim fun path hpath => ?_)
  obtain ⟨s, m, -, hm, rfl⟩ := Text.exists_find_of_mem_hits 0 hpath
  exact get?_scope_asking_congr (Placeholder.find_eq_some_iff.mp hm).1 h hempty htime hid v w

/-! ### The rendering -/

/-- The skeleton is filled in the one string that holds the placeholder. -/
theorem readBody_asking (hr : r.Plain) (u : Usage) :
    readBody ((t.asking k).filled r.escaping (r.builtins u) (.single org k v)) =
      .ok [("a", .object [("v", .string (t.comesThrough org (r.builtins u) k v))])] := by
  have hdepth : (Json.object [("a", .object [("v", slot k)])]).depth ≤ Json.depthLimit := by
    simp [Json.depth, Json.memberDepth, slot, Json.ofText, Json.depthLimit]
  have hnumbers : ∀ n, .number n ∈ (Json.object [("a", .object [("v", slot k)])]).leaves →
      n.ReadsBack := by
    simp [Json.leaves, Json.memberLeaves, slot, Json.ofText]
  obtain ⟨body, hmerged, hbody⟩ := Renderer.exists_readBody_object (t := t.asking k) rfl hdepth
    hnumbers hr.escaping (fun n c hc => (Renderer.isRaw_and_ne_brace (hr.ids n c hc)).1)
    (.single org k v) u
  have hname : ∀ name : String, '{' ∉ name.toList → Placeholder.verbatimFilled (t.asking k).grammar
      (r.builtins u) ((t.asking k).scope (.single org k v)) name = name := fun name hname =>
    Placeholder.verbatimFilled_eq_self (Placeholder.asksNothing_of_no_brace hname)
  simp only [Json.mapTexts, Json.mapMembers, slot, Json.ofText, hname "a" (by decide),
    hname "v" (by decide)] at hmerged
  rw [← Template.comesThrough] at hmerged
  have hdistinct : (Json.object [("a", .object
      [("v", .string (t.comesThrough org (r.builtins u) k v))])]).Distinct :=
    ⟨List.nodup_singleton _, ⟨List.nodup_singleton _, trivial, trivial⟩, trivial⟩
  rw [Json.merged_eq_self hdistinct] at hmerged
  obtain rfl := Json.object.inj hmerged
  exact hbody

/-- A rendering puts in what the placeholder is filled to, once the check passes. -/
theorem deliveredFor_eq (hr : r.Plain) (u : Usage)
    (hvalid : (t.asking k).validate ((t.asking k).values [(k, .string v)]) = .ok ()) :
    r.deliveredFor t org u k v = some (.string (t.comesThrough org (r.builtins u) k v)) := by
  rw [Renderer.deliveredFor, Renderer.outcome_of_readBody hvalid (readBody_asking hr u)]
  simp only [Except.toOption, Option.bind_some]
  rw [get?_complete_of_kept _ _ _ (by decide) fun hmem => absurd hmem (by decide)]
  rfl

/-- A value passes the check of its own field. -/
theorem validate_asking (hfields : ∀ f ∈ t.fields, f.required = true → f.id = k)
    (hv : ¬Unfilled (some (.string v))) :
    (t.asking k).validate ((t.asking k).values [(k, .string v)]) = .ok () := by
  have hnames : (Json.Object.names [(k, .string v)]).Nodup := List.nodup_singleton k
  refine (Template.validate_eq_ok_iff_allFilled hnames).mpr fun f hf hrequired => ?_
  rw [hfields f hf hrequired]
  simpa [Template.effective, Json.Object.get?] using hv

theorem validate_asking_of_optional (hfields : ∀ f ∈ t.fields, f.required = false) (v : String) :
    (t.asking k).validate ((t.asking k).values [(k, .string v)]) = .ok () := by
  refine Template.validate_eq_ok_iff.mpr fun f hf hrequired => ?_
  rw [hfields f hf] at hrequired
  cases hrequired

/-- Under an id that its placeholder cannot ask for, all values give the same, so that some value
    does not come through. -/
theorem exists_deliveredFor_ne (hr : r.Plain) (h : ¬Askable k)
    (hfields : ∀ f ∈ t.fields, f.required = true → f.id = k) (org : Organization) (u : Usage) :
    (∃ s, ∀ v, ¬Unfilled (some (.string v)) → r.deliveredFor t org u k v = some (.string s)) ∧
    ∃ v, ¬Unfilled (some (.string v)) ∧ r.deliveredFor t org u k v ≠ some (.string v) := by
  have hnow : '{' ∉ (r.builtins u).now := fun hmem =>
    absurd (isTimestampChar_of_mem_text hmem) (by decide)
  have huuid : '{' ∉ (r.builtins u).uuid := fun hmem =>
    (Renderer.isRaw_and_ne_brace (hr.ids _ _ hmem)).2 rfl
  have hsame : ∀ v, ¬Unfilled (some (.string v)) → r.deliveredFor t org u k v =
      some (.string (t.comesThrough org (r.builtins u) k "")) := fun v hv => by
    rw [deliveredFor_eq hr u (validate_asking hfields hv), comesThrough_congr hnow huuid h v ""]
  have hfilled : ∀ v ∈ ["x", "y"], ¬Unfilled (some (.string v)) := by
    simp only [← isMissing_iff]
    decide
  refine ⟨⟨_, hsame⟩, ?_⟩
  by_contra hall
  push Not at hall
  have hx := (hsame "x" (hfilled "x" (by decide))).symm.trans (hall "x" (hfilled "x" (by decide)))
  have hy := (hsame "y" (hfilled "y" (by decide))).symm.trans (hall "y" (hfilled "y" (by decide)))
  rw [hx] at hy
  simp at hy

theorem plain_registrar : Renderer.Specimen.registrar.Plain :=
  ⟨rfl, fun n => (Renderer.Specimen.registrar_ids n).2⟩

/-- The placeholder of an id brings in every value of its field just when it can ask for the id:
    when the id is not empty, has letters, digits, dashes and underscores only, and does not stand
    for the time, the id of the rendering or the organization. For any other id a filled in field
    passes the check, and the rendering puts in the same whatever its value is, so that there is a
    value that does not come through. -/
theorem deliveredFor_iff_askable (t : Template) (k : String) :
    ((∀ f ∈ t.fields, f.required = false) →
      ((∀ (r : Renderer) (org : Organization) (u : Usage) (v : String), r.Plain →
        r.deliveredFor t org u k v = some (.string v)) ↔ Askable k)) ∧
    (¬Askable k → (∀ f ∈ t.fields, f.required = true → f.id = k) →
      (∀ v, ¬Unfilled (some (.string v)) →
        (t.asking k).validate ((t.asking k).values [(k, .string v)]) = .ok ()) ∧
      ∀ (r : Renderer) (org : Organization) (u : Usage), r.Plain →
        (∃ s, ∀ v, ¬Unfilled (some (.string v)) →
          r.deliveredFor t org u k v = some (.string s)) ∧
        ∃ v, ¬Unfilled (some (.string v)) ∧ r.deliveredFor t org u k v ≠ some (.string v)) := by
  refine ⟨fun hoptional => ⟨fun hall => ?_, fun h r org u v hr => ?_⟩, fun h hfields => ?_⟩
  · by_contra h
    have hfields : ∀ f ∈ t.fields, f.required = true → f.id = k := by
      intro f hf hrequired
      rw [hoptional f hf] at hrequired
      cases hrequired
    obtain ⟨-, v, -, hne⟩ := exists_deliveredFor_ne plain_registrar h hfields ⟨"", []⟩ {}
    exact hne (hall _ _ _ v plain_registrar)
  · rw [deliveredFor_eq hr u (validate_asking_of_optional hoptional v), comesThrough_of_askable h]
  · exact ⟨fun v hv => validate_asking hfields hv,
      fun r org u hr => exists_deliveredFor_ne hr h hfields org u⟩

namespace Specimen

/-- A description of a template with a required field that has a dot in its id. -/
def dottedSource : Json :=
  .object [("meta", .object [("fields", .object [("a.b", .string "text!")])]),
    ("vc", .object [("a", .object [("v", slot "a.b")])])]

/-- The template that is described. -/
def dotted : Template :=
  { key := "Untitled"
    name := "Untitled"
    context := none
    fields := [{ id := "a.b", type := .text, label := "a.b", required := true }]
    skeleton := .object [("a", .object [("v", slot "a.b")])] }

end Specimen

/-- An id with a dash brings in every value, an id with a dot does not, though it is loaded and its
    values pass the check. -/
theorem deliveredFor_iff_askable_specimen :
    Renderer.Specimen.registrar.deliveredFor { Specimen.template (.object []) with fields := [] }
      ⟨"", []⟩ {} "dept-2" r#""{{now}}"# = some (.string r#""{{now}}"#) ∧
    Wpm.template Specimen.dottedSource = .ok Specimen.dotted ∧
    Specimen.dotted.asking "a.b" = Specimen.dotted ∧
    (∀ v, ¬Unfilled (some (.string v)) →
      Specimen.dotted.validate (Specimen.dotted.values [("a.b", .string v)]) = .ok ()) ∧
    ∃ v, ¬Unfilled (some (.string v)) ∧
      Renderer.Specimen.registrar.deliveredFor Specimen.dotted ⟨"", []⟩ {} "a.b" v ≠
        some (.string v) := by
  have hdash : Askable "dept-2" :=
    ⟨by decide, Text.forall_mem_of_all (by decide), by decide⟩
  have hdot : ¬Askable "a.b" := fun h => absurd (h.chars '.' (by decide)) (by decide)
  obtain ⟨hdelivers, -⟩ := deliveredFor_iff_askable
    { Specimen.template (.object []) with fields := [] } "dept-2"
  obtain ⟨-, hloses⟩ := deliveredFor_iff_askable Specimen.dotted "a.b"
  obtain ⟨hvalid, hvalues⟩ := hloses hdot (by simp [Specimen.dotted])
  exact ⟨(hdelivers (by simp)).mpr hdash _ _ _ _ plain_registrar, rfl, rfl, hvalid,
    (hvalues _ _ _ plain_registrar).2⟩

end Issuance

import Issuance.Proofs.Credential.DollarPath
import Issuance.Proofs.Credential.TextSkeleton
import Issuance.Proofs.Json.Distinct

/-! # The two ways to ask for the context

    A text template may ask for its context by the placeholder for it, or by a string that is its
    name. The name is looked for before the placeholders are filled, and in the text as it is
    spelled. So the placeholder becomes the context whatever the context holds, but a context that
    comes in for its name is searched for placeholders itself, and it comes in for the name behind
    an escaped quote as well. A string that asks for the context in none of these ways is filled the
    same way under every context. -/

namespace Issuance

open Json (Leaf Writes)
open Placeholder (ofPath verbatimFilled fillBuiltins)

namespace Template

/-- The template with another context. -/
def withContext (t : Template) (c : String) : Template := { t with context := some c }

/-- A string of a text template as it is rendered: the context comes in for its name, and then the
    placeholders are filled. -/
def rendered (t : Template) (b : Placeholder.Builtins) (ctx : RenderContext) (s : String) : String :=
  verbatimFilled t.grammar b (t.scope ctx) ((t.context.map (namedContext · s)).getD s)

/-- The placeholder for the context. -/
def contextSlot : String := String.ofList (ofPath contextName.toList)

variable {t : Template} {c : String} {written : List Char} {members : Json.Object}
  {b : Placeholder.Builtins} {ctx : RenderContext}

/-! ### Single strings -/

theorem rendered_withContext (t : Template) (c : String) (b : Placeholder.Builtins)
    (ctx : RenderContext) (s : String) :
    (t.withContext c).rendered b ctx s =
      verbatimFilled t.grammar b ((t.withContext c).scope ctx) (namedContext c s) := rfl

theorem grammar_of_text (h : t.skeleton = .text (String.ofList written)) :
    t.grammar = { dollar := true } := by
  rw [grammar, h]

theorem scope_withContext (h : t.skeleton = .text (String.ofList written)) (c : String)
    (ctx : RenderContext) :
    (t.withContext c).scope ctx = ((t.withContext c).withText []).scope ctx := by
  simp [scope, withContext, withText, values, h]

/-- A string without placeholders is rendered as it is, the context put in for its name. -/
theorem verbatimFilled_eq_self {scope : Json.Object} {s : String}
    (h : t.grammar.AsksNothing s.toList) : verbatimFilled t.grammar b scope s = s :=
  Placeholder.verbatimFilled_eq_self h

/-- The placeholder for the context becomes the context. -/
theorem rendered_contextSlot (h : t.skeleton = .text (String.ofList written)) :
    (t.withContext c).rendered b ctx contextSlot = c := by
  have hpath : Placeholder.Grammar.HasPath { dollar := true } contextName.toList :=
    .dollar rfl (by decide) (Text.forall_mem_of_all (by decide))
  have hbuiltins := Placeholder.fillBuiltins_ofPath b hpath.unbraced (by decide) (by decide) [] []
  rw [rendered_withContext, namedContext_eq_self (by decide), verbatimFilled, contextSlot,
    String.toList_ofList, grammar_of_text h, scope_withContext h, Placeholder.fillAll]
  rw [List.nil_append, List.append_nil] at hbuiltins
  rw [hbuiltins, Placeholder.fillPaths_ofPath hpath, fill_contextName rfl]
  change String.ofList ([] ++ (c.toList ++ [])) = c
  rw [List.nil_append, List.append_nil, String.ofList_toList]

/-- The name of the context becomes the context, filled. -/
theorem rendered_contextName (t : Template) (c : String) (b : Placeholder.Builtins)
    (ctx : RenderContext) :
    (t.withContext c).rendered b ctx contextName =
      verbatimFilled t.grammar b ((t.withContext c).scope ctx) c := by
  rw [rendered_withContext, namedContext, if_pos rfl]

/-- Only the path of the context finds another value under another context. -/
theorem fill_withContext {path : List Char} (h : t.skeleton = .text (String.ofList written))
    (hpath : path ≠ contextName.toList) (c c' : String) :
    Placeholder.fill .verbatim ((t.withContext c').scope ctx) path =
      Placeholder.fill .verbatim ((t.withContext c).scope ctx) path := by
  rw [scope_withContext h, scope_withContext h]
  by_cases hname : Placeholder.firstName path = contextName
  · rw [fill_of_contextName (t := t.withContext c') rfl hname hpath,
      fill_of_contextName (t := t.withContext c) rfl hname hpath]
  · refine Placeholder.fill_congr _ ?_
    rw [scope_withText_of_some (t := t.withContext c') rfl,
      scope_withText_of_some (t := t.withContext c) rfl,
      Json.Object.get?_insert_of_ne (Ne.symm hname), Json.Object.get?_insert_of_ne (Ne.symm hname)]
    rfl

/-- A string that does not end in the name of the context behind a quote, and that does not hold its
    placeholder once the time and the id are in it, is rendered the same way under every context. -/
theorem rendered_congr (h : t.skeleton = .text (String.ofList written)) {s : String}
    (hname : ¬('"' :: contextName.toList <:+ '"' :: s.toList))
    (hslot : ¬ofPath contextName.toList <:+: fillBuiltins b s.toList) (c c' : String) :
    (t.withContext c').rendered b ctx s = (t.withContext c).rendered b ctx s := by
  rw [rendered_withContext, rendered_withContext, namedContext_eq_self hname,
    namedContext_eq_self hname, verbatimFilled, verbatimFilled]
  refine congrArg String.ofList (Text.fillPieces_congr fun path hpath => ?_)
  refine fill_withContext h ?_ c c'
  rintro rfl
  obtain ⟨u, m, hu, hm, hvalue⟩ := Text.exists_find_of_mem_hits 0 hpath
  obtain ⟨-, hstarts, -⟩ := Placeholder.find_eq_some_iff.mp hm
  exact hslot (hvalue ▸ hstarts.isInfix.trans hu.isInfix)

/-! ### The whole text -/

/-- A text of an object in which no name is repeated, asks for a placeholder or holds a dollar sign,
    and no character is spelled in hexadecimal digits. -/
structure WritesPlainly (members : Json.Object) (written : List Char) : Prop where
  writes : Writes .Accepted (.object members) written
  depth_le : (Json.object members).depth ≤ Json.depthLimit
  distinct : (Json.object members).Distinct
  hexFree : Json.hexFree written = true
  plain_names : ∀ name, Leaf.name name ∈ (Json.object members).leaves →
    '$' ∉ name.toList ∧ ¬Placeholder.opening <:+: name.toList

/-- The filled text is read as the object with every string rendered. -/
theorem parse_filled_withContext (h : t.skeleton = .text (String.ofList written))
    (hplain : WritesPlainly members written) (hnow : ∀ d ∈ b.now, Json.isRaw d = true)
    (huuid : ∀ d ∈ b.uuid, Json.isRaw d = true) :
    Json.parse ((t.withContext c).filled .jsonString b ctx) =
      .ok ((Json.object members).mapTexts id ((t.withContext c).rendered b ctx)) := by
  have hsource : (t.withContext c).source =
      Text.replace contextLiteral (Json.quote c.toList) written := by
    simp [source, withContext, h]
  have hnamed := writes_replace_named (Json.short_writes hplain.writes hplain.hexFree)
    (fun name hname => (hplain.plain_names name hname).1) c
  rw [← hsource] at hnamed
  have hself : ∀ {s : List Char}, (∀ d ∈ s, Json.isRaw d = true) → Json.Literal .Mixed s s :=
    fun hs => .self fun d hd => .inl (Json.short_of_isRaw (hs d hd))
  have hwrites : Writes .Accepted
      (((Json.object members).mapTexts id (namedContext c)).mapTexts
        (verbatimFilled t.grammar b ((t.withContext c).scope ctx))
        (verbatimFilled t.grammar b ((t.withContext c).scope ctx)))
      ((t.withContext c).filled .jsonString b ctx) :=
    Placeholder.writes_fillAll tame_mixed (hself hnow) (hself huuid)
      (fun _ _ => accepted_of_mixed) (fun _ _ => Json.accepted_of_canonical) hnamed
  have hvalue : ((Json.object members).mapTexts id (namedContext c)).mapTexts
      (verbatimFilled t.grammar b ((t.withContext c).scope ctx))
      (verbatimFilled t.grammar b ((t.withContext c).scope ctx)) =
        (Json.object members).mapTexts id ((t.withContext c).rendered b ctx) := by
    rw [Json.mapTexts_mapTexts]
    refine Json.mapTexts_congr fun leaf hleaf => ?_
    cases leaf with
    | name s =>
      have hasks := Placeholder.asksNothing_of_no_opening (g := t.grammar)
        (hplain.plain_names s hleaf).2
      exact congrArg Leaf.name (verbatimFilled_eq_self hasks)
    | text s => rfl
    | number n => rfl
  rw [hvalue] at hwrites
  refine Json.parse_eq_ok_iff.mpr ⟨_, hwrites, ?_, Json.merged_eq_self ?_⟩
  · rw [Json.depth_mapTexts]
    exact hplain.depth_le
  · exact Json.distinct_mapTexts _ hplain.distinct

end Template

/-- Rendering a text template that writes an object, with escaped values, never fails once its
    required fields have values. What is completed is the object with every string rendered. A
    string that is the placeholder for the context becomes the context, whatever the context holds.
    A string that is the name of the context becomes the context filled, which is the context itself
    where it holds no placeholder. A string that does not end in the name behind a quote, and that
    does not hold the placeholder once the time and the id are in it, is the same under every
    context. -/
theorem Renderer.outcome_of_text_skeleton {r : Renderer} {t : Template} {members : Json.Object}
    {written : List Char} (hskeleton : t.skeleton = .text (String.ofList written))
    (hplain : Template.WritesPlainly members written) (hescaping : r.escaping = .jsonString)
    (hids : ∀ n, ∀ d ∈ (r.ids n).toList, Json.isRaw d = true) (c : String) (ctx : RenderContext)
    (u : Usage) (hvalid : t.validate (t.values ctx.form) = .ok ()) :
    ∃ body,
      readBody ((t.withContext c).filled r.escaping (r.builtins u) ctx) = .ok body ∧
      body = Json.mapMembers id ((t.withContext c).rendered (r.builtins u) ctx) members ∧
      (r.render (t.withContext c) ctx u).result.outcome = .ok ⟨(t.withContext c).toSummary,
        complete ctx.org.did (r.clock u.clockReads) (r.ids (u.idsTaken + 1)) body⟩ ∧
      (t.withContext c).rendered (r.builtins u) ctx Template.contextSlot = c ∧
      (t.withContext c).rendered (r.builtins u) ctx Template.contextName =
        verbatimFilled t.grammar (r.builtins u) ((t.withContext c).scope ctx) c ∧
      (t.grammar.AsksNothing c.toList →
        (t.withContext c).rendered (r.builtins u) ctx Template.contextName = c) ∧
      ∀ s : String, ¬('"' :: Template.contextName.toList <:+ '"' :: s.toList) →
        ¬ofPath Template.contextName.toList <:+: fillBuiltins (r.builtins u) s.toList →
          ∀ c', (t.withContext c').rendered (r.builtins u) ctx s =
            (t.withContext c).rendered (r.builtins u) ctx s := by
  have hparse : Json.parse ((t.withContext c).filled .jsonString (r.builtins u) ctx) = .ok _ :=
    Template.parse_filled_withContext hskeleton hplain (fun _ hd => isRaw_of_mem_now hd)
      (hids u.idsTaken)
  have hbody : readBody ((t.withContext c).filled r.escaping (r.builtins u) ctx) =
      .ok (Json.mapMembers id ((t.withContext c).rendered (r.builtins u) ctx) members) := by
    rw [hescaping]
    exact readBody_eq_ok_iff.mpr hparse
  have hname := Template.rendered_contextName t c (r.builtins u) ctx
  refine ⟨_, hbody, rfl, outcome_of_readBody hvalid hbody, ?_, hname, fun hasks => ?_, ?_⟩
  · exact Template.rendered_contextSlot hskeleton
  · rw [hname, Template.verbatimFilled_eq_self hasks]
  · exact fun s hends hslot c' => Template.rendered_congr hskeleton hends hslot c c'

/-! ### Texts to look at -/

namespace Specimen

/-- Both ways to ask for the context, and its name behind an escaped quote. -/
def contextMembers : Json.Object :=
  [("named", .string Template.contextName), ("asked", .string Template.contextSlot),
    ("quoted", .string ("say \"" ++ Template.contextName))]

/-- The object as a text in compact form. -/
def contextText : List Char := (Json.object contextMembers).compact

/-- A template with the text. -/
def contextTemplate : Template :=
  { template (.object []) with fields := [] }.withText contextText

/-- A context that asks for a value of the form. -/
def askingContext : String := r"urn:{{x}}"

/-- A form with that value. -/
def valueContext : RenderContext := ⟨⟨"did:web:school", []⟩, [("x", .string "v")]⟩

theorem writesPlainly : Template.WritesPlainly contextMembers contextText where
  writes := by
    have hnumbers : ∀ n, .number n ∈ (Json.object contextMembers).leaves → n.ReadsBack := by
      intro n hn
      simp [contextMembers, Json.leaves, Json.memberLeaves] at hn
    exact Json.writes_compact hnumbers
  depth_le := by decide
  distinct := ⟨by decide, trivial, trivial, trivial, trivial⟩
  hexFree := by decide +kernel
  plain_names := by
    intro name hname
    simp only [contextMembers, Json.leaves, Json.memberLeaves, List.cons_append, List.nil_append,
      List.mem_cons, Leaf.name.injEq, reduceCtorEq, List.not_mem_nil, or_false, false_or] at hname
    rcases hname with rfl | rfl | rfl <;> decide

end Specimen

/-- A context that asks for a value comes in as it is for the placeholder. -/
theorem Renderer.outcome_of_text_skeleton_specimen :
    ∃ body,
      readBody ((Specimen.contextTemplate.withContext Specimen.askingContext).filled .jsonString
        ((Specimen.renderer .jsonString).builtins {}) Specimen.valueContext) = .ok body ∧
      body.get? "asked" = some (.string Specimen.askingContext) ∧
      ((Specimen.renderer .jsonString).render
        (Specimen.contextTemplate.withContext Specimen.askingContext) Specimen.valueContext
          {}).result.outcome.toOption.isSome = true := by
  obtain ⟨body, hbody, rfl, houtcome, hslot, -⟩ := Renderer.outcome_of_text_skeleton
    (r := Specimen.renderer .jsonString) (t := Specimen.contextTemplate) rfl Specimen.writesPlainly
    rfl (fun _ _ hd => (isRaw_of_mem_sequentialIds hd).1) Specimen.askingContext
    Specimen.valueContext {} rfl
  refine ⟨_, hbody, ?_, by rw [houtcome]; rfl⟩
  change some (Json.string _) = _
  rw [hslot]

/-- The context comes in differently for its name and for its placeholder where it holds a
    placeholder itself, and a string that only ends in the name takes it in as well. -/
theorem Renderer.context_differs_by_spelling :
    (((Specimen.renderer .jsonString).render
        (Specimen.contextTemplate.withContext Specimen.askingContext) Specimen.valueContext
          {}).result.outcome.toOption.map fun cred =>
      [(cred.body.get? "named").bind Json.text?, (cred.body.get? "asked").bind Json.text?]) =
        some [some "urn:v", some Specimen.askingContext] ∧
    (((Specimen.renderer .jsonString).render (Specimen.contextTemplate.withContext "urn:c")
        Specimen.valueContext {}).result.outcome.toOption.map fun cred =>
      (cred.body.get? "quoted").bind Json.text?) = some (some "say \"urn:c") := by
  constructor <;> decide +kernel

end Issuance

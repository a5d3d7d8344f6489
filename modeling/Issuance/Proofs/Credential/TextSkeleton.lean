import Issuance.Proofs.Credential.ContextLiteral
import Issuance.Proofs.Credential.Outcome
import Issuance.Proofs.Json.HexFree
import Issuance.Proofs.Placeholder.Dollar
import Issuance.Proofs.Placeholder.Filling

/-! # Text templates and object templates

    A text template and an object template made from one JSON text are rendered alike. The text
    keeps its own spelling and white space and asks for the context by name, the object is printed
    in the canonical form with the context in its place; but both are texts of the same value, so
    filling them comes to filling the same names and strings. -/

namespace Issuance

open Json (Spelling Literal Leaf Writes)
open Placeholder (opening builtinsFilled verbatimFilled paths fillBuiltins lookup)

/-- A text template and an object template made from one text of an object. The text is any that is
    read as the object, without hexadecimal escapes and without a name repeated in an object. No
    name holds a dollar sign, and no string does but for those that are the name of the context;
    these are the context in the object template. -/
structure Twins (text object : Template) (members : Json.Object) (written : List Char) : Prop where
  parses : Json.parse written = .ok (.object members)
  hexFree : Json.hexFree written = true
  distinct : ∃ raw, Writes .Accepted raw written ∧ raw.depth ≤ Json.depthLimit ∧ raw.Distinct
  readsBack : ∀ n, .number n ∈ (Json.object members).leaves → n.ReadsBack
  namesContextOnly : ∀ leaf ∈ (Json.object members).leaves, leaf.NamesContextOnly
  text_skeleton : text.skeleton = .text (String.ofList (Text.trim written))
  object_skeleton : object.skeleton = .object (Json.mapMembers id (putContext text.context) members)
  not_opening : ∀ c, text.context = some c → ¬opening <:+: c.toList
  not_named : text.context = none →
    Leaf.text Template.contextName ∉ (Json.object members).leaves
  fields_eq : text.fields = object.fields
  defaults_eq : text.defaults = object.defaults

/-- A text where putting in what has no dollar sign makes no placeholder for the context. -/
def Json.Leaf.Settled : Leaf → Prop
  | .name s => '$' ∉ s.toList ∨ ¬opening <:+: s.toList
  | .text s => '$' ∉ s.toList ∨ ¬opening <:+: s.toList
  | .number _ => True

theorem tame_mixed : Placeholder.Tame .Mixed := by
  rintro c w (h | h)
  · exact Placeholder.tame_short h
  · exact Placeholder.tame_canonical h

theorem accepted_of_mixed {c : Char} {w : List Char} (h : Spelling.Mixed c w) :
    Spelling.Accepted c w :=
  h.elim Json.accepted_of_short Json.accepted_of_canonical

/-- What stands for the reserved placeholders may stand in a literal as it is, and holds no dollar
    sign. -/
structure Placeholder.Builtins.Plain (b : Placeholder.Builtins) : Prop where
  now : ∀ c ∈ b.now, Json.isRaw c = true ∧ c ≠ '$'
  uuid : ∀ c ∈ b.uuid, Json.isRaw c = true ∧ c ≠ '$'

theorem literal_mixed {s : List Char} (h : ∀ c ∈ s, Json.isRaw c = true ∧ c ≠ '$') :
    Literal .Mixed s s :=
  .self fun c hc => .inl (Json.short_of_isRaw (h c hc).1)

theorem not_mem_dollar {s : List Char} (h : ∀ c ∈ s, Json.isRaw c = true ∧ c ≠ '$') : '$' ∉ s :=
  fun hmem => (h _ hmem).2 rfl

namespace Twins

variable {text object : Template} {members : Json.Object} {written : List Char}
  {b : Placeholder.Builtins} {ctx : RenderContext}

/-! ### The two sources -/

/-- The text writes the object itself, in short spellings, as nothing is merged when it is read. -/
theorem writes (h : Twins text object members written) :
    Writes .Short (.object members) written ∧ (Json.object members).depth ≤ Json.depthLimit := by
  obtain ⟨raw, hraw, hdepth, hdistinct⟩ := h.distinct
  have hparse := Json.parse_eq_ok_iff.mpr ⟨raw, hraw, hdepth, Json.merged_eq_self hdistinct⟩
  rw [h.parses] at hparse
  cases hparse
  exact ⟨Json.short_writes hraw h.hexFree, hdepth⟩

/-- The white space around a text of an object is trimmed, and nothing else. -/
theorem writes_trim (h : Twins text object members written) :
    Writes .Short (.object members) (Text.trim written) := by
  obtain ⟨w, s, w', hw, hs, hw', rfl⟩ := h.writes.1
  have hblank : ∀ {u : List Char}, Json.Blank u → ∀ c ∈ u, Text.isBlank c = true := by
    intro u hu c hc
    have hspace := hu c hc
    simp only [Json.isSpace, Bool.or_eq_true, beq_iff_eq] at hspace
    rcases hspace with ((rfl | rfl) | rfl) | rfl <;> decide
  cases hs with
  | object hms =>
    obtain ⟨m, rfl⟩ := hms.members_last
    rw [Text.trim_append (hblank hw) (hblank hw') (by decide) (by decide) m]
    exact ⟨[], _, [], Json.blank_nil, .object hms, Json.blank_nil, by simp⟩

/-- The object with the context put in, which both templates are made from. -/
abbrev value (text : Template) (members : Json.Object) : Json :=
  (Json.object members).mapTexts id (putContext text.context)

theorem writes_text_source (h : Twins text object members written) :
    Writes .Mixed (value text members) text.source := by
  have htrim := h.writes_trim
  cases hcontext : text.context with
  | none =>
    have hsource : text.source = Text.trim written := by
      simp [Template.source, h.text_skeleton, hcontext]
    have hvalue : (Json.object members).mapTexts id (putContext none) = .object members :=
      Json.mapTexts_id _
    rw [hsource, value, hcontext, hvalue]
    exact htrim.mono fun _ _ => .inl
  | some c =>
    have hsource : text.source =
        Text.replace Template.contextLiteral (Json.quote c.toList) (Text.trim written) := by
      simp [Template.source, h.text_skeleton, hcontext]
    rw [hsource, value, hcontext]
    exact Template.writes_replace_context htrim h.namesContextOnly c

theorem writes_object_source (h : Twins text object members written) :
    Writes .Mixed (value text members) object.source := by
  have hsource : object.source = (value text members).compact := by
    simp [Template.source, h.object_skeleton, value, Json.mapTexts]
  have hcompact := Json.derives_compact (v := value text members) fun n hn =>
    h.readsBack n (Json.number_mem_leaves_mapTexts hn)
  refine ⟨[], _, [], Json.blank_nil, hcompact.mono fun _ _ => .inr, Json.blank_nil, ?_⟩
  rw [hsource, List.nil_append, List.append_nil]

/-- No string of the value can ask for the context once the reserved placeholders are filled. -/
theorem settled (h : Twins text object members written) :
    ∀ leaf ∈ (value text members).leaves, leaf.Settled := by
  intro leaf hleaf
  rw [value, Json.leaves_mapTexts, List.mem_map] at hleaf
  obtain ⟨origin, horigin, rfl⟩ := hleaf
  have honly := h.namesContextOnly origin horigin
  cases origin with
  | name s => exact .inl honly
  | number n => trivial
  | text s =>
    rcases honly with rfl | hs
    · cases hcontext : text.context with
      | none => exact absurd horigin (h.not_named hcontext)
      | some c => exact .inr (by simpa [putContext] using h.not_opening c hcontext)
    · left
      rwa [putContext_of_no_dollar hs]

/-! ### What placeholders find -/

theorem get?_scope_eq (h : Twins text object members written) (ctx : RenderContext)
    {name : String} (hname : '$' ∉ name.toList) :
    (text.scope ctx).get? name = (object.scope ctx).get? name := by
  have hvalues : text.values ctx.form = object.values ctx.form := by
    rw [Template.values, Template.values, h.defaults_eq]
  have hne : Template.contextName ≠ name := by
    rintro rfl
    exact hname (by decide)
  have hobject : object.scope ctx = (object.values ctx.form).insert "org" ctx.org.toJson := by
    simp [Template.scope, h.object_skeleton]
  rw [hobject, ← hvalues]
  cases hcontext : text.context with
  | none => simp [Template.scope, h.text_skeleton, hcontext]
  | some c =>
    simp [Template.scope, h.text_skeleton, hcontext, Json.Object.get?_insert_of_ne hne]

theorem text_grammar (h : Twins text object members written) :
    text.grammar = { dollar := true } := by
  rw [Template.grammar, h.text_skeleton]

theorem object_grammar (h : Twins text object members written) :
    object.grammar = { dollar := false } := by
  rw [Template.grammar, h.object_skeleton]

/-- Both templates fill a string of the value the same way. -/
theorem verbatimFilled_eq (h : Twins text object members written) (hb : b.Plain) {s : String}
    (hs : '$' ∉ s.toList ∨ ¬opening <:+: s.toList) :
    verbatimFilled text.grammar b (text.scope ctx) s =
      verbatimFilled object.grammar b (object.scope ctx) s := by
  have hasks := Placeholder.asksNoDollar_fillBuiltins (not_mem_dollar hb.now)
    (not_mem_dollar hb.uuid) hs
  rw [verbatimFilled, verbatimFilled, Placeholder.fillAll, Placeholder.fillAll,
    Placeholder.fillPaths, Placeholder.fillPaths, h.text_grammar, h.object_grammar,
    Placeholder.pieces_dollar_eq hasks]
  refine congrArg _ (Text.fillPieces_congr fun path hpath => Placeholder.fill_congr _ ?_)
  exact h.get?_scope_eq ctx
    (Placeholder.not_mem_firstName (Placeholder.not_mem_dollar_of_mem_hits hpath))

theorem mapTexts_eq (h : Twins text object members written) (hb : b.Plain) :
    (value text members).mapTexts (verbatimFilled text.grammar b (text.scope ctx))
        (verbatimFilled text.grammar b (text.scope ctx)) =
      (value text members).mapTexts (verbatimFilled object.grammar b (object.scope ctx))
        (verbatimFilled object.grammar b (object.scope ctx)) := by
  refine Json.mapTexts_congr fun leaf hleaf => ?_
  have hsettled := h.settled leaf hleaf
  cases leaf with
  | name s => exact congrArg Leaf.name (h.verbatimFilled_eq hb hsettled)
  | text s => exact congrArg Leaf.text (h.verbatimFilled_eq hb hsettled)
  | number n => rfl

/-- In a string of the value both grammars find the same paths. -/
theorem leafHits_eq {leaf : Leaf} (hb : b.Plain) (hleaf : leaf.Settled) :
    Placeholder.leafHits (Placeholder.find { dollar := true })
        (leaf.mapTexts (builtinsFilled b) (builtinsFilled b)) =
      Placeholder.leafHits (Placeholder.find { dollar := false })
        (leaf.mapTexts (builtinsFilled b) (builtinsFilled b)) := by
  have hpieces : ∀ {s : String}, '$' ∉ s.toList ∨ ¬opening <:+: s.toList →
      Text.pieces (Placeholder.find { dollar := true }) (builtinsFilled b s).toList =
        Text.pieces (Placeholder.find { dollar := false }) (builtinsFilled b s).toList := by
    intro s hs
    rw [builtinsFilled, String.toList_ofList]
    exact Placeholder.pieces_dollar_eq (Placeholder.asksNoDollar_fillBuiltins
      (not_mem_dollar hb.now) (not_mem_dollar hb.uuid) hs)
  cases leaf with
  | name s => exact congrArg Text.hits (hpieces hleaf)
  | text s => exact congrArg Text.hits (hpieces hleaf)
  | number n => rfl

/-- Both templates come across the same paths. -/
theorem paths_eq (h : Twins text object members written) (hb : b.Plain) :
    paths text.grammar (fillBuiltins b text.source) =
      paths object.grammar (fillBuiltins b object.source) := by
  rw [Placeholder.paths_fillBuiltins text.grammar tame_mixed (literal_mixed hb.now)
      (literal_mixed hb.uuid) h.writes_text_source,
    Placeholder.paths_fillBuiltins object.grammar tame_mixed (literal_mixed hb.now)
      (literal_mixed hb.uuid) h.writes_object_source,
    h.text_grammar, h.object_grammar, Json.leaves_mapTexts]
  refine List.flatMap_congr fun leaf hleaf => ?_
  obtain ⟨origin, horigin, rfl⟩ := List.mem_map.mp hleaf
  exact leafHits_eq hb (h.settled origin horigin)

/-! ### What comes of filling -/

/-- Where values are escaped, or need not be, both templates are filled as if they were escaped. -/
theorem filled_eq (h : Twins text object members written) (hb : b.Plain)
    {escaping : Placeholder.Escaping}
    (hvalues : escaping = .jsonString ∨ ∀ path ∈ paths text.grammar (fillBuiltins b text.source),
      ∀ value, lookup (text.scope ctx) path = some value → ∀ c ∈ value, Json.isRaw c = true) :
    text.filled escaping b ctx = text.filled .jsonString b ctx ∧
      object.filled escaping b ctx = object.filled .jsonString b ctx := by
  cases escaping with
  | jsonString => exact ⟨rfl, rfl⟩
  | verbatim =>
    have hraw := hvalues.resolve_left (by decide)
    refine ⟨Placeholder.fillAll_verbatim_eq hraw, Placeholder.fillAll_verbatim_eq ?_⟩
    intro path hpath value hvalue
    have hdollar : '$' ∉ path := by
      rw [h.object_grammar] at hpath
      exact Placeholder.not_mem_dollar_of_mem_hits hpath
    have hsame := h.get?_scope_eq ctx (Placeholder.not_mem_firstName hdollar)
    rw [← h.paths_eq hb] at hpath
    refine hraw path hpath value ?_
    rw [lookup, Placeholder.value?_congr hsame]
    exact hvalue

/-- Both templates are filled to texts of one object. -/
theorem exists_readBody (h : Twins text object members written) (hb : b.Plain)
    {escaping : Placeholder.Escaping}
    (hvalues : escaping = .jsonString ∨ ∀ path ∈ paths text.grammar (fillBuiltins b text.source),
      ∀ value, lookup (text.scope ctx) path = some value → ∀ c ∈ value, Json.isRaw c = true) :
    ∃ body, readBody (text.filled escaping b ctx) = .ok body ∧
      readBody (object.filled escaping b ctx) = .ok body := by
  have hread : ∀ {t : Template}, Writes .Mixed (value text members) t.source →
      Json.parse (t.filled .jsonString b ctx) =
        .ok ((value text members).mapTexts (verbatimFilled t.grammar b (t.scope ctx))
          (verbatimFilled t.grammar b (t.scope ctx))).merged := by
    intro t hsource
    have hwrites : Writes .Accepted ((value text members).mapTexts
        (verbatimFilled t.grammar b (t.scope ctx)) (verbatimFilled t.grammar b (t.scope ctx)))
        (t.filled .jsonString b ctx) :=
      Placeholder.writes_fillAll tame_mixed (literal_mixed hb.now) (literal_mixed hb.uuid)
        (fun _ _ => accepted_of_mixed) (fun _ _ => Json.accepted_of_canonical) hsource
    refine Json.parse_eq_ok_iff.mpr ⟨_, hwrites, ?_, rfl⟩
    rw [Json.depth_mapTexts, Json.depth_mapTexts]
    exact h.writes.2
  obtain ⟨htext, hobject⟩ := h.filled_eq hb hvalues
  rw [htext, hobject]
  refine ⟨_, readBody_eq_ok_iff.mpr ?_, readBody_eq_ok_iff.mpr (hread h.writes_object_source)⟩
  rw [hread h.writes_text_source, h.mapTexts_eq hb]
  rfl

end Twins

/-- A text template and an object template made from one JSON text are rendered alike: to the same
    body, or to the error of the same field without a value. This holds for every form where values
    are escaped, and where they are not for every form whose values need no escaping. -/
theorem Renderer.outcome_agree_of_twins {text object : Template} {members : Json.Object}
    {written : List Char} (h : Twins text object members written) (r : Renderer)
    (hids : ∀ n, ∀ c ∈ (r.ids n).toList, Json.isRaw c = true ∧ c ≠ '$') (ctx : RenderContext)
    (u : Usage)
    (hvalues : r.escaping = .jsonString ∨
      ∀ path ∈ paths text.grammar (fillBuiltins (r.builtins u) text.source), ∀ value,
        lookup (text.scope ctx) path = some value → ∀ c ∈ value, Json.isRaw c = true) :
    (∃ body, (r.render text ctx u).result.outcome = .ok ⟨text.toSummary, body⟩ ∧
        (r.render object ctx u).result.outcome = .ok ⟨object.toSummary, body⟩) ∨
      ∃ id, (r.render text ctx u).result.outcome = .error (.missingRequiredField id) ∧
        (r.render object ctx u).result.outcome = .error (.missingRequiredField id) := by
  have hb : (r.builtins u).Plain := by
    refine ⟨fun c hc => ⟨isRaw_of_mem_now hc, ?_⟩, hids u.idsTaken⟩
    exact ne_dollar_of_isTimestampChar (isTimestampChar_of_mem_text hc)
  have hvalid : object.validate (object.values ctx.form) =
      text.validate (text.values ctx.form) := by
    rw [Template.validate, Template.validate, Template.values, Template.values, h.fields_eq,
      h.defaults_eq]
  cases hmissing : firstMissing text.fields (text.values ctx.form) with
  | some f =>
    have herror : text.validate (text.values ctx.form) = .error (.missingRequiredField f.id) := by
      rw [Template.validate, hmissing]
    exact .inr ⟨f.id, outcome_of_validate_error herror,
      outcome_of_validate_error (hvalid.trans herror)⟩
  | none =>
    have hok : text.validate (text.values ctx.form) = .ok () := by
      rw [Template.validate, hmissing]
    obtain ⟨body, htext, hobject⟩ := h.exists_readBody hb hvalues
    exact .inl ⟨_, outcome_of_readBody hok htext,
      outcome_of_readBody (hvalid.trans hok) hobject⟩

/-! ### Twins to look at -/

namespace Specimen

/-- The members that the text writes. -/
def textMembers : Json.Object :=
  [("@context", .string Template.contextName), ("name", Placeholder.slot "name"),
    ("level", .number (.whole 3))]

/-- The text template of the text. -/
def textTemplate : Template := template (.text (String.ofList (Text.trim text.toList)))

/-- The object template of its members. -/
def objectTemplate : Template :=
  template (.object (Json.mapMembers id (putContext (some credentialContext)) textMembers))

theorem writes_text : Writes .Short (.object textMembers) text.toList := by
  have hspace : Json.Blank [' '] := by simp [Json.Blank, Json.isSpace]
  have hlit : ∀ s : String, s.toList.all Json.isRaw = true → Literal .Short s.toList s.toList :=
    fun s hs => .self fun c hc => Json.short_of_isRaw (List.all_eq_true.mp hs c hc)
  have hnumber : Json.Derives .Short (.value (.number (.whole 3))) ['3'] := .number rfl
  have hmembers := Json.Derives.object <|
    .member (.first hspace) (hlit "@context" (by decide)) Json.blank_nil hspace
      (.string (hlit "$context" (by decide))) <|
    .member (.next Json.blank_nil hspace) (hlit "name" (by decide)) Json.blank_nil hspace
      (.string (hlit r"{{name}}" (by decide))) <|
    .member (.next Json.blank_nil hspace) (hlit "level" (by decide)) Json.blank_nil hspace
      hnumber <|
    .lastMember hspace
  simp only [String.ofList_toList] at hmembers
  exact ⟨[], _, [], Json.blank_nil, hmembers, Json.blank_nil, by decide⟩

theorem distinct : (Json.object textMembers).Distinct :=
  ⟨by decide, trivial, trivial, trivial, trivial⟩

theorem twins : Twins textTemplate objectTemplate textMembers text.toList where
  parses := Json.parse_eq_ok_iff.mpr ⟨_, writes_text.mono fun _ _ => Json.accepted_of_short,
    by decide, Json.merged_eq_self distinct⟩
  hexFree := by decide +kernel
  distinct := ⟨_, writes_text.mono fun _ _ => Json.accepted_of_short, by decide, distinct⟩
  readsBack := by
    intro n hn
    simp [textMembers, Placeholder.slot, Json.ofText, Json.leaves, Json.memberLeaves] at hn
    subst hn
    rfl
  namesContextOnly := by
    intro leaf hleaf
    simp only [textMembers, Placeholder.slot, Json.ofText, Json.leaves, Json.memberLeaves,
      List.cons_append, List.nil_append, List.mem_cons, List.not_mem_nil, or_false] at hleaf
    rcases hleaf with rfl | rfl | rfl | rfl | rfl | rfl
    · change '$' ∉ "@context".toList
      decide
    · exact .inl rfl
    · change '$' ∉ "name".toList
      decide
    · right
      decide
    · change '$' ∉ "level".toList
      decide
    · trivial
  text_skeleton := rfl
  object_skeleton := rfl
  not_opening := by
    rintro c hc hsub
    cases hc
    have hbrace : '{' ∉ credentialContext.toList := by decide
    exact hbrace (hsub.subset (by decide))
  not_named := by intro h; cases h
  fields_eq := rfl
  defaults_eq := rfl

end Specimen

/-- A text with space between its tokens, filled with a name that has to be escaped. -/
theorem Renderer.outcome_agree_of_twins_specimen :
    (∃ body, ((Specimen.renderer .jsonString).render Specimen.textTemplate Specimen.context
          {}).result.outcome = .ok ⟨Specimen.textTemplate.toSummary, body⟩ ∧
        ((Specimen.renderer .jsonString).render Specimen.objectTemplate Specimen.context
          {}).result.outcome = .ok ⟨Specimen.objectTemplate.toSummary, body⟩) ∨
      ∃ id, ((Specimen.renderer .jsonString).render Specimen.textTemplate Specimen.context
          {}).result.outcome = .error (.missingRequiredField id) ∧
        ((Specimen.renderer .jsonString).render Specimen.objectTemplate Specimen.context
          {}).result.outcome = .error (.missingRequiredField id) :=
  Renderer.outcome_agree_of_twins Specimen.twins (Specimen.renderer .jsonString)
    (fun _ _ hc => isRaw_of_mem_sequentialIds hc) Specimen.context {} (.inl rfl)

end Issuance

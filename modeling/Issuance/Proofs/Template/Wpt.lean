import Issuance.Proofs.Json.Overlay
import Issuance.Proofs.Template.Building
import Issuance.Proofs.Template.Directives
import Issuance.Proofs.Traced

/-! # What a WPT text means

    A WPT text is a template just when every line of its header is a directive, one of them gives
    the key, and no two of them are fields with the same id. What the directives of one kind give
    depends on the order among them alone, and what stands behind the separator is nothing but the
    body. -/

namespace Issuance

namespace Wpt

open Text (Trimmed LastGiven AllGiven)

variable {α : Type} {text line : List Char} {ls : List (List Char)} {ds : List Directive}

/-! ### Directives line by line -/

/-- What a line gives as a directive, if it gives anything of a sort. -/
def given? (sort : Directive → Option α) (line : List Char) : Option α :=
  (directive line).toOption.bind sort

theorem given?_eq_some_iff (hline : Trimmed line) (sort : Directive → Option α) {a : α} :
    given? sort line = some a ↔ ∃ d, Gives line d ∧ sort d = some a := by
  rw [given?, Option.bind_eq_some_iff]
  exact exists_congr fun d => and_congr_left fun _ =>
    toOption_eq_some_iff.trans (directive_eq_ok_iff hline)

theorem trimmed_of_mem_headerLines (h : line ∈ headerLines text) : Trimmed line := by
  obtain ⟨raw, -, rfl⟩ := List.mem_map.mp (List.mem_filter.mp h).1
  exact Text.trimmed_trim raw

theorem directives_eq_ok_iff : ∀ {ls : List (List Char)} {ds : List Directive},
    directives ls = .ok ds ↔
      (∀ l ∈ ls, ∃ d, directive l = .ok d) ∧ ds = ls.filterMap (given? some)
  | [], ds => by simp [directives, eq_comm]
  | l :: rest, ds => by
    rw [directives]
    cases hl : directive l with
    | error flaw => simp [hl]
    | ok d =>
      have hgiven : given? some l = some d := by rw [given?, hl]; rfl
      rw [List.filterMap_cons_some hgiven]
      dsimp only
      cases hrest : directives rest with
      | error flaw =>
        refine iff_of_false (by intro h; cases h) ?_
        rintro ⟨hall, -⟩
        have hok := directives_eq_ok_iff.mpr
          ⟨fun m hm => hall m (List.mem_cons_of_mem l hm), rfl⟩
        rw [hrest] at hok
        cases hok
      | ok es =>
        obtain ⟨hall, rfl⟩ := directives_eq_ok_iff.mp hrest
        constructor
        · intro h
          cases h
          exact ⟨List.forall_mem_cons.mpr ⟨⟨d, hl⟩, hall⟩, rfl⟩
        · rintro ⟨-, rfl⟩
          rfl

/-- The directives of lines give what the lines give. -/
theorem filterMap_given? (sort : Directive → Option α) (ls : List (List Char)) :
    (ls.filterMap (given? some)).filterMap sort = ls.filterMap (given? sort) := by
  rw [List.filterMap_filterMap]
  refine List.filterMap_congr fun l _ => ?_
  rw [given?, given?]
  cases (directive l).toOption <;> rfl

/-- What a directive gives is not blank. -/
theorem not_blank_of_gives {d : Directive} {value : String} (h : Gives line d)
    (hvalue : d.key? = some value ∨ d.name? = some value ∨ d.context? = some value) :
    Text.allBlank value.toList = false := by
  have hmeta : ∀ {name : String}, IsMeta name line value →
      Text.allBlank value.toList = false := by
    rintro name ⟨w, v, -, -, hv, hvalue⟩
    rw [← hvalue, Text.allBlank_trim, hv]
  cases d with
  | key v =>
    rcases hvalue with hvalue | hvalue | hvalue <;> cases hvalue
    exact hmeta h
  | name v =>
    rcases hvalue with hvalue | hvalue | hvalue <;> cases hvalue
    exact hmeta h
  | context v =>
    rcases hvalue with hvalue | hvalue | hvalue <;> cases hvalue
    exact hmeta h
  | _ => rcases hvalue with hvalue | hvalue | hvalue <;> cases hvalue

/-! ### The template of directives -/

/-- The name that directives give, or else the key. -/
def nameOf (key : String) (ds : List Directive) : String :=
  ((ds.filterMap Directive.name?).getLast?).getD key

/-- The context that directives give, or else the usual one. -/
def contextOf (ds : List Directive) : String :=
  ((ds.filterMap Directive.context?).getLast?).getD defaultContext

/-- What the skeleton is made from: the body, or else the directives. -/
def sourceOf (ds : List Directive) (body : List Char) : Body :=
  if body = [] then
    .json (.object (generated (contextOf ds) (ds.filterMap Directive.type?)
      (ds.filterMap Directive.field?)))
  else .text (String.ofList body)

/-- The skeleton that directives and a body make. -/
def skeletonOf (ds : List Directive) (body : List Char) : Skeleton :=
  if body = [] then
    .object (generated (contextOf ds) (ds.filterMap Directive.type?)
      (ds.filterMap Directive.field?))
  else .text (String.ofList body)

/-- The template that directives with a key and a body make. -/
def made (key : String) (ds : List Directive) (body : List Char) : Template :=
  (Template.ofParts key (nameOf key ds) (some (contextOf ds)) (ds.filterMap Directive.field?)
    (skeletonOf ds body)).withDefaults (Json.Object.ofMembers (ds.filterMap Directive.default?))

theorem skeleton_sourceOf (ds : List Directive) {body : List Char} (hbody : Trimmed body) :
    (sourceOf ds body).skeleton = .ok (skeletonOf ds body) := by
  rw [sourceOf, skeletonOf]
  by_cases hnil : body = []
  · rw [if_pos hnil, if_pos hnil]
    rfl
  · have hfilled : Text.allBlank body = false := by
      rw [Bool.eq_false_iff]
      intro hblank
      exact hnil (hbody.symm.trans (Text.trim_eq_nil_iff.mpr hblank))
    rw [if_neg hnil, if_neg hnil, Body.skeleton, String.toList_ofList, hfilled]
    rfl

/-- Directives are refused for a missing key or a repeated field, and for nothing else that they
    give. -/
theorem assemble_eq (hds : ∀ d ∈ ds, ∃ line, Gives line d) {body : List Char}
    (hbody : Trimmed body) :
    assemble ds body =
      match (ds.filterMap Directive.key?).getLast? with
      | none => .error .directivesLackKey
      | some key =>
        match firstRepeat [] ((ds.filterMap Directive.field?).map FieldSpec.id) with
        | some id => .error (.repeatedField id)
        | none => .ok (made key ds body) := by
  have hgiven : ∀ {sort : Directive → Option String} {value : String},
      (ds.filterMap sort).getLast? = some value →
      (∀ d, sort d = some value →
        d.key? = some value ∨ d.name? = some value ∨ d.context? = some value) →
      Text.allBlank value.toList = false := by
    intro sort value hlast hsort
    obtain ⟨d, hd, hvalue⟩ := List.mem_filterMap.mp (List.mem_of_getLast? hlast)
    obtain ⟨line, hline⟩ := hds d hd
    exact not_blank_of_gives hline (hsort d hvalue)
  rw [assemble]
  cases hkey : (ds.filterMap Directive.key?).getLast? with
  | none => rfl
  | some key =>
    have hkeyFilled := hgiven hkey fun _ h => .inl h
    have hname : Text.allBlank (nameOf key ds).toList = false := by
      rw [nameOf]
      cases hlast : (ds.filterMap Directive.name?).getLast? with
      | none => exact hkeyFilled
      | some name => exact hgiven hlast fun _ h => .inr (.inl h)
    have hcontext : ∀ c, some (contextOf ds) = some c → Text.allBlank c.toList = false := by
      rintro c hc
      cases hc
      rw [contextOf]
      cases hlast : (ds.filterMap Directive.context?).getLast? with
      | none => decide
      | some context => exact hgiven hlast fun _ h => .inr (.inr h)
    have hskeleton := skeleton_sourceOf ds hbody
    dsimp only
    change (Template.build key (nameOf key ds) (some (contextOf ds))
      (ds.filterMap Directive.field?) (sourceOf ds body)).map _ = _
    rw [Template.build_of_skeleton hkeyFilled hname hskeleton hcontext]
    cases firstRepeat [] ((ds.filterMap Directive.field?).map FieldSpec.id) <;> rfl

/-! ### The template of a text -/

/-- What the header of a text gives of one sort, in order. -/
def givenBy (sort : Directive → Option α) (text : List Char) : List α :=
  (headerLines text).filterMap (given? sort)

/-- The template of a text whose header gives a key. -/
def templateOf (key : String) (text : List Char) : Template :=
  made key (givenBy some text) (body text)

/-- Every part of the template comes from what the header gives of one sort, or from the body. -/
theorem templateOf_eq (key : String) (text : List Char) :
    templateOf key text =
      let name := ((givenBy Directive.name? text).getLast?).getD key
      let context := ((givenBy Directive.context? text).getLast?).getD defaultContext
      let fields := givenBy Directive.field? text
      let skeleton : Skeleton :=
        if body text = [] then .object (generated context (givenBy Directive.type? text) fields)
        else .text (String.ofList (body text))
      (Template.ofParts key name (some context) fields skeleton).withDefaults
        (Json.Object.ofMembers (givenBy Directive.default? text)) := by
  simp only [templateOf, made, nameOf, contextOf, skeletonOf, givenBy, filterMap_given?]

theorem exists_gives_of_mem_givenBy {d : Directive} (h : d ∈ givenBy some text) :
    ∃ line, Gives line d := by
  obtain ⟨line, hline, hd⟩ := List.mem_filterMap.mp h
  obtain ⟨d', hgives, heq⟩ :=
    (given?_eq_some_iff (trimmed_of_mem_headerLines hline) some).mp hd
  cases heq
  exact ⟨line, hgives⟩

theorem trimmed_body (text : List Char) : Trimmed (body text) := Text.trimmed_trim _

/-- A text whose header lines are directives is a template, but for a missing key or a repeated
    field. -/
theorem template_of_directives (h : ∀ line ∈ headerLines text, ∃ d, Gives line d) :
    template text =
      match (givenBy Directive.key? text).getLast? with
      | none => .error .directivesLackKey
      | some key =>
        match firstRepeat [] ((givenBy Directive.field? text).map FieldSpec.id) with
        | some id => .error (.repeatedField id)
        | none => .ok (templateOf key text) := by
  have hdirectives : directives (headerLines text) = .ok (givenBy some text) := by
    refine directives_eq_ok_iff.mpr ⟨fun line hline => ?_, rfl⟩
    obtain ⟨d, hd⟩ := h line hline
    exact ⟨d, (directive_eq_ok_iff (trimmed_of_mem_headerLines hline)).mpr hd⟩
  rw [template, hdirectives]
  dsimp only
  rw [assemble_eq (fun d hd => exists_gives_of_mem_givenBy hd) (trimmed_body text), givenBy,
    filterMap_given?, filterMap_given?]
  rfl

/-- A template comes of a header of directives with a key and no repeated field, and of no other. -/
theorem template_eq_ok_iff {t : Template} :
    template text = .ok t ↔ (∀ line ∈ headerLines text, ∃ d, Gives line d) ∧
      ((givenBy Directive.field? text).map FieldSpec.id).Nodup ∧
      ∃ key, (givenBy Directive.key? text).getLast? = some key ∧ t = templateOf key text := by
  constructor
  · intro h
    have hall : ∀ line ∈ headerLines text, ∃ d, Gives line d := by
      intro line hline
      rw [template] at h
      cases hdirectives : directives (headerLines text) with
      | error flaw => rw [hdirectives] at h; cases h
      | ok ds =>
        obtain ⟨d, hd⟩ := (directives_eq_ok_iff.mp hdirectives).1 line hline
        exact ⟨d, (directive_eq_ok_iff (trimmed_of_mem_headerLines hline)).mp hd⟩
    rw [template_of_directives hall] at h
    split at h
    · cases h
    · next key hkey =>
      split at h
      · cases h
      · next hnone =>
        cases h
        exact ⟨hall, (firstRepeat_eq_none_iff.mp hnone).1, key, hkey, rfl⟩
  · rintro ⟨hall, hnodup, key, hkey, rfl⟩
    have hnone : firstRepeat [] ((givenBy Directive.field? text).map FieldSpec.id) = none :=
      firstRepeat_eq_none_iff.mpr ⟨hnodup, fun _ _ => List.not_mem_nil⟩
    rw [template_of_directives hall, hkey, hnone]

/-- What the template holds besides its skeleton comes from the header. -/
theorem map_toSummary_template {text' : List Char} (h : headerLines text' = headerLines text) :
    (template text').map Template.toSummary = (template text).map Template.toSummary := by
  rw [template, template, h]
  cases hdirectives : directives (headerLines text) with
  | error flaw => rfl
  | ok ds =>
    have hgives : ∀ d ∈ ds, ∃ line, Gives line d := by
      intro d hd
      rw [(directives_eq_ok_iff.mp hdirectives).2] at hd
      exact exists_gives_of_mem_givenBy hd
    dsimp only
    rw [assemble_eq hgives (trimmed_body text'), assemble_eq hgives (trimmed_body text)]
    split
    · rfl
    · split <;> rfl

/-! ### Sorts of directives -/

namespace Directive

variable {d : Directive}

theorem key?_eq_some_iff {v : String} : d.key? = some v ↔ d = .key v := by
  cases d <;> simp [key?]

theorem name?_eq_some_iff {v : String} : d.name? = some v ↔ d = .name v := by
  cases d <;> simp [name?]

theorem context?_eq_some_iff {v : String} : d.context? = some v ↔ d = .context v := by
  cases d <;> simp [context?]

theorem type?_eq_some_iff {v : String} : d.type? = some v ↔ d = .type v := by
  cases d <;> simp [type?]

theorem field?_eq_some_iff {f : FieldSpec} : d.field? = some f ↔ d = .field f := by
  cases d <;> simp [field?]

end Directive

/-! ### Kinds of directives -/

/-- The kinds of directives. -/
inductive Kind where
  | key
  | name
  | context
  | type
  | field
  | default
  deriving DecidableEq

/-- The kind of a directive. -/
def Directive.kind : Directive → Kind
  | .key _ => .key
  | .name _ => .name
  | .context _ => .context
  | .type _ => .type
  | .field _ => .field
  | .default _ _ => .default

/-- The kind of the directive that a line gives. -/
def kind? (line : List Char) : Option Kind := given? (fun d => some d.kind) line

/-- The header lines of a kind, in order. -/
def linesOf (kind : Kind) (text : List Char) : List (List Char) :=
  (headerLines text).filter fun line => kind? line = some kind

/-- What is given by directives of one kind alone is given by the lines of that kind. -/
theorem filterMap_linesOf {sort : Directive → Option α} {kind : Kind}
    (hsort : ∀ d a, sort d = some a → d.kind = kind) (text : List Char) :
    (linesOf kind text).filterMap (given? sort) = givenBy sort text := by
  rw [linesOf, List.filterMap_filter]
  refine List.filterMap_congr fun line _ => ?_
  by_cases hkind : kind? line = some kind
  · simp [hkind]
  · rw [decide_eq_false hkind, if_neg (by decide), eq_comm, Option.eq_none_iff_forall_ne_some]
    intro a ha
    obtain ⟨d, hd, hsome⟩ := Option.bind_eq_some_iff.mp ha
    exact hkind (Option.bind_eq_some_iff.mpr ⟨d, hd, congrArg some (hsort d a hsome)⟩)

/-- Header lines in another order, but in the same order within each kind, and the same body give
    the same template. -/
theorem template_congr {text' : List Char} (hlines : (headerLines text').Perm (headerLines text))
    (hkinds : ∀ kind, linesOf kind text' = linesOf kind text) (hbody : body text' = body text)
    {t : Template} (h : template text = .ok t) : template text' = .ok t := by
  have hgiven : ∀ {α : Type} {sort : Directive → Option α} (kind : Kind),
      (∀ d a, sort d = some a → d.kind = kind) → givenBy sort text' = givenBy sort text := by
    intro α sort kind hsort
    rw [← filterMap_linesOf hsort text', hkinds, filterMap_linesOf hsort text]
  have hkey : givenBy Directive.key? text' = givenBy Directive.key? text :=
    hgiven .key fun _ _ hd => by rw [Directive.key?_eq_some_iff.mp hd]; rfl
  have hname : givenBy Directive.name? text' = givenBy Directive.name? text :=
    hgiven .name fun _ _ hd => by rw [Directive.name?_eq_some_iff.mp hd]; rfl
  have hcontext : givenBy Directive.context? text' = givenBy Directive.context? text :=
    hgiven .context fun _ _ hd => by rw [Directive.context?_eq_some_iff.mp hd]; rfl
  have htype : givenBy Directive.type? text' = givenBy Directive.type? text :=
    hgiven .type fun _ _ hd => by rw [Directive.type?_eq_some_iff.mp hd]; rfl
  have hfield : givenBy Directive.field? text' = givenBy Directive.field? text :=
    hgiven .field fun _ _ hd => by rw [Directive.field?_eq_some_iff.mp hd]; rfl
  have hdefault : givenBy Directive.default? text' = givenBy Directive.default? text :=
    hgiven .default fun d _ hd => by cases d <;> cases hd; rfl
  obtain ⟨hall, hnodup, key, hlast, rfl⟩ := template_eq_ok_iff.mp h
  refine template_eq_ok_iff.mpr ⟨fun line hline => hall line (hlines.mem_iff.mp hline), ?_, key, ?_,
    ?_⟩
  · rwa [hfield]
  · rwa [hkey]
  · simp only [templateOf_eq, hname, hcontext, htype, hfield, hdefault, hbody]

/-! ### What the header says -/

/-- A header line that is a directive, of one of the three forms. -/
def IsDirective (line : List Char) : Prop :=
  (∃ f, IsField line f) ∨ (∃ name ∈ ["key", "name", "context", "type+"], ∃ v, IsMeta name line v) ∨
    ∃ d, IsDefault line d

theorem isDirective_iff : IsDirective line ↔ ∃ d, Gives line d := by
  constructor
  · rintro (⟨f, h⟩ | ⟨name, hname, v, h⟩ | ⟨d, h⟩)
    · exact ⟨.field f, h⟩
    · simp only [List.mem_cons, List.not_mem_nil, or_false] at hname
      rcases hname with rfl | rfl | rfl | rfl
      · exact ⟨.key v, h⟩
      · exact ⟨.name v, h⟩
      · exact ⟨.context v, h⟩
      · exact ⟨.type v, h⟩
    · exact ⟨.default d.1 d.2, h⟩
  · rintro ⟨d, h⟩
    cases d with
    | field f => exact .inl ⟨f, h⟩
    | key v => exact .inr (.inl ⟨"key", by decide, v, h⟩)
    | name v => exact .inr (.inl ⟨"name", by decide, v, h⟩)
    | context v => exact .inr (.inl ⟨"context", by decide, v, h⟩)
    | type v => exact .inr (.inl ⟨"type+", by decide, v, h⟩)
    | default id v => exact .inr (.inr ⟨(id, v), h⟩)

/-- A template that holds what the header and the body of a text give: of the key, the name and the
    context the value that is given last, of fields and types all in order, of a default the last
    value where its id came first. -/
structure Describes (text : List Char) (t : Template) : Prop where
  key : LastGiven (IsMeta "key") (headerLines text) t.key
  name : LastGiven (IsMeta "name") (headerLines text) t.name ∨
    (∀ line ∈ headerLines text, ∀ value, ¬IsMeta "name" line value) ∧ t.name = t.key
  context : ∃ c, t.context = some c ∧ (LastGiven (IsMeta "context") (headerLines text) c ∨
    (∀ line ∈ headerLines text, ∀ value, ¬IsMeta "context" line value) ∧ c = defaultContext)
  fields : AllGiven IsField (headerLines text) t.fields
  defaults : ∃ ds, AllGiven IsDefault (headerLines text) ds ∧
    t.defaults.names = Text.firstsBy id (ds.map Prod.fst) ∧
    ∀ id v, t.defaults.get? id = some v ↔ ∃ value, v = .string value ∧
      LastGiven (fun line value => IsDefault line (id, value)) (headerLines text) value
  skeleton : ∃ types c, AllGiven (IsMeta "type+") (headerLines text) types ∧ t.context = some c ∧
    t.skeleton =
      if body text = [] then .object (generated c types t.fields)
      else .text (String.ofList (body text))

/-- The header lines that give a directive of a sort are those that have its form. -/
theorem reads_of {sort : Directive → Option α} {make : α → Directive}
    (h : ∀ {d a}, sort d = some a ↔ d = make a) (text : List Char) :
    ∀ line ∈ headerLines text, ∀ a, given? sort line = some a ↔ Gives line (make a) := by
  intro line hline a
  rw [given?_eq_some_iff (trimmed_of_mem_headerLines hline)]
  constructor
  · rintro ⟨d, hd, hsort⟩
    rwa [← h.mp hsort]
  · exact fun hd => ⟨make a, hd, h.mpr rfl⟩

/-- The id and the value of a default. -/
def Directive.pair? : Directive → Option (String × String)
  | .default id v => some (id, v)
  | _ => none

theorem Directive.pair?_eq_some_iff {d : Directive} {p : String × String} :
    d.pair? = some p ↔ d = .default p.1 p.2 := by
  cases d <;> simp [pair?, Prod.ext_iff]

theorem defaults_eq (text : List Char) :
    givenBy Directive.default? text =
      (givenBy Directive.pair? text).map fun p => (p.1, .string p.2) := by
  rw [givenBy, givenBy, List.map_filterMap]
  refine List.filterMap_congr fun line _ => ?_
  rw [given?, given?]
  cases (directive line).toOption with
  | none => rfl
  | some d => cases d <;> rfl

/-- The default of an id is the last one given to it. -/
theorem get?_defaults (text : List Char) (id : String) (v : Json) :
    (Json.Object.ofMembers (givenBy Directive.default? text)).get? id = some v ↔
      ∃ value, v = .string value ∧
        LastGiven (fun line value => IsDefault line (id, value)) (headerLines text) value := by
  have hunder : (givenBy Directive.default? text).filterMap (Text.under? id) =
      (givenBy (fun d => d.pair?.bind (Text.under? id)) text).map .string := by
    rw [givenBy, givenBy, List.filterMap_filterMap, List.map_filterMap]
    refine List.filterMap_congr fun line _ => ?_
    rw [given?, given?]
    cases (directive line).toOption with
    | none => rfl
    | some d =>
      cases d with
      | default id' value =>
        by_cases hid : id' = id <;> simp [Directive.default?, Directive.pair?, Text.under?, hid]
      | _ => rfl
  have hsort : ∀ {d : Directive} {value : String},
      d.pair?.bind (Text.under? id) = some value ↔ d = .default id value := by
    intro d value
    cases d <;> simp [Directive.pair?, Text.under?]
  have hreads : ∀ line ∈ headerLines text, ∀ value,
      given? (fun d => d.pair?.bind (Text.under? id)) line = some value ↔
        IsDefault line (id, value) := reads_of hsort text
  rw [Json.Object.get?_ofMembers, hunder, List.getLast?_map, Option.map_eq_some_iff]
  refine exists_congr fun value => ?_
  rw [givenBy, ← Text.lastGiven_iff hreads, and_comm, eq_comm]

theorem describes_of_template {t : Template} (h : template text = .ok t) : Describes text t := by
  obtain ⟨-, -, key, hkey, rfl⟩ := template_eq_ok_iff.mp h
  have hkeys := reads_of Directive.key?_eq_some_iff text
  have hnames := reads_of Directive.name?_eq_some_iff text
  have hcontexts := reads_of Directive.context?_eq_some_iff text
  have htypes := reads_of Directive.type?_eq_some_iff text
  have hfields := reads_of Directive.field?_eq_some_iff text
  have hpairs := reads_of Directive.pair?_eq_some_iff text
  rw [templateOf_eq]
  refine ⟨(Text.lastGiven_iff hkeys).mpr hkey, ?_, ⟨_, rfl, ?_⟩, Text.allGiven_filterMap hfields,
    ⟨givenBy Directive.pair? text, Text.allGiven_filterMap hpairs, ?_, get?_defaults text⟩,
    ⟨_, _, Text.allGiven_filterMap htypes, rfl, rfl⟩⟩
  · cases hname : (givenBy Directive.name? text).getLast? with
    | some name => exact .inl ((Text.lastGiven_iff hnames).mpr hname)
    | none => exact .inr ⟨(Text.getLast?_eq_none_iff_of_reads hnames).mp hname, rfl⟩
  · cases hcontext : (givenBy Directive.context? text).getLast? with
    | some context => exact .inl ((Text.lastGiven_iff hcontexts).mpr hcontext)
    | none => exact .inr ⟨(Text.getLast?_eq_none_iff_of_reads hcontexts).mp hcontext, rfl⟩
  · change (Json.Object.ofMembers (givenBy Directive.default? text)).names = _
    rw [Json.Object.names_ofMembers, defaults_eq, List.map_map]
    rfl

/-- The fields that a header gives have ids of their own just when no two lines give one id. -/
theorem nodup_ids_iff (text : List Char) :
    ((givenBy Directive.field? text).map FieldSpec.id).Nodup ↔
      (headerLines text).Pairwise fun l m => ∀ f g, IsField l f → IsField m g → f.id ≠ g.id := by
  have hfields := reads_of Directive.field?_eq_some_iff text
  rw [List.Nodup, List.pairwise_map, givenBy, List.pairwise_filterMap]
  refine List.Pairwise.iff_of_mem fun {l m} hl hm => ?_
  constructor
  · intro h f g hf hg
    exact h f ((hfields l hl f).mpr hf) g ((hfields m hm g).mpr hg)
  · intro h f hf g hg
    exact h f g ((hfields l hl f).mp hf) ((hfields m hm g).mp hg)

end Wpt

/-! ### Loading -/

namespace Template

/-- A WPT text is accepted just when every header line is a directive, one gives the key, and the
    fields have ids of their own; any other text is an invalid template. The template then holds
    what the header and the body give. What stands behind the separator only makes the skeleton, and
    the order of directives matters within each kind alone. -/
theorem outcome_load_wpt (text : List Char) :
    ((∃ t, (load .wpt text).outcome = .ok t) ↔
      (∀ line ∈ Wpt.headerLines text, Wpt.IsDirective line) ∧
      (∃ line ∈ Wpt.headerLines text, ∃ value, Wpt.IsMeta "key" line value) ∧
      (Wpt.headerLines text).Pairwise fun l m =>
        ∀ f g, Wpt.IsField l f → Wpt.IsField m g → f.id ≠ g.id) ∧
    (∀ e, (load .wpt text).outcome = .error e → ∃ flaw, e = .templateInvalid flaw) ∧
    (∀ t, (load .wpt text).outcome = .ok t → Wpt.Describes text t) ∧
    (∀ text', Wpt.headerLines text' = Wpt.headerLines text →
      (load .wpt text').outcome.map toSummary = (load .wpt text).outcome.map toSummary) ∧
    (∀ text', (Wpt.headerLines text').Perm (Wpt.headerLines text) →
      (∀ kind, Wpt.linesOf kind text' = Wpt.linesOf kind text) →
      Wpt.body text' = Wpt.body text →
      ∀ t, (load .wpt text').outcome = .ok t ↔ (load .wpt text).outcome = .ok t) := by
  have hok : ∀ {text : List Char} {t : Template},
      (load .wpt text).outcome = .ok t ↔ Wpt.template text = .ok t := refuse_eq_ok_iff
  refine ⟨?_, ?_, ?_, ?_, ?_⟩
  · -- acceptance
    have hkeys : ∀ line ∈ Wpt.headerLines text, ∀ v,
        Wpt.given? Wpt.Directive.key? line = some v ↔ Wpt.IsMeta "key" line v :=
      Wpt.reads_of Wpt.Directive.key?_eq_some_iff text
    simp only [hok, Wpt.template_eq_ok_iff, Wpt.isDirective_iff]
    rw [← Wpt.nodup_ids_iff, ← Text.exists_getLast?_iff hkeys]
    constructor
    · rintro ⟨-, hall, hnodup, key, hkey, -⟩
      exact ⟨hall, ⟨key, hkey⟩, hnodup⟩
    · rintro ⟨hall, ⟨key, hkey⟩, hnodup⟩
      exact ⟨_, hall, hnodup, key, hkey, rfl⟩
  · -- failures
    intro e he
    obtain ⟨flaw, rfl, -⟩ := exists_flaw_of_refuse he
    exact ⟨flaw, rfl⟩
  · exact fun t ht => Wpt.describes_of_template (hok.mp ht)
  · -- behind the separator
    intro text' h
    change (refuse (Wpt.template text')).map toSummary = (refuse (Wpt.template text)).map toSummary
    rw [map_refuse, map_refuse, Wpt.map_toSummary_template h]
  · -- the order of the header
    intro text' hlines hkinds hbody t
    rw [hok, hok]
    exact ⟨Wpt.template_congr hlines.symm (fun kind => (hkinds kind).symm) hbody.symm,
      Wpt.template_congr hlines hkinds hbody⟩

end Template

/-- A text that gives its key twice, one default twice, and looks like a header in its body. -/
def Wpt.specimen : List Char :=
  Text.joinLines <| ["@key: old", "@key: card", "@field id: did", "@default id: a",
    "@default dept: b", "@default id: c", "---", "@key: late"].map String.toList

/-- The text with the lines of its header in another order. -/
def Wpt.reordered : List Char :=
  Text.joinLines <| ["@default id: a", "@key: old", "@default dept: b", "@field id: did",
    "@key: card", "@default id: c", "---", "@key: late"].map String.toList

/-- The later key and the later default count, and the order among kinds does not. -/
theorem Template.outcome_load_wpt_specimen :
    (Wpt.headerLines Wpt.reordered).Perm (Wpt.headerLines Wpt.specimen) ∧
      ∃ t, (load .wpt Wpt.specimen).outcome = .ok t ∧ (load .wpt Wpt.reordered).outcome = .ok t ∧
        (t.key, t.name, t.defaults.names) = ("card", "card", ["id", "dept"]) := by
  obtain ⟨-, -, -, -, horder⟩ := outcome_load_wpt Wpt.specimen
  have hlines : (Wpt.headerLines Wpt.reordered).Perm (Wpt.headerLines Wpt.specimen) := by
    decide +kernel
  have hkinds : ∀ kind, Wpt.linesOf kind Wpt.reordered = Wpt.linesOf kind Wpt.specimen := by
    intro kind
    cases kind <;> decide +kernel
  have hbody : Wpt.body Wpt.reordered = Wpt.body Wpt.specimen := by decide +kernel
  have hread : (load .wpt Wpt.specimen).outcome.toOption.map
      (fun t => (t.key, t.name, t.defaults.names)) = some ("card", "card", ["id", "dept"]) := by
    decide +kernel
  obtain ⟨t, hsome, hparts⟩ := Option.map_eq_some_iff.mp hread
  have ht : (load .wpt Wpt.specimen).outcome = .ok t := toOption_eq_some_iff.mp hsome
  exact ⟨hlines, t, ht, (horder _ hlines hkinds hbody t).mpr ht, hparts⟩

end Issuance

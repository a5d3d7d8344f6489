import Issuance.Proofs.Credential.Completion
import Issuance.Proofs.Credential.FieldName
import Issuance.Proofs.Credential.ObjectSkeleton
import Issuance.Proofs.Template.Invariant

/-! # Skeletons made from a header deliver every field

    A WPT text without a body makes its skeleton from its header. Rendering it puts every field into
    the subject of the credential, under its id and in the order of the header, with the value of
    the form, or else the default, or else nothing. What makes this work is that each value of the
    skeleton is either plain text or one placeholder, so that each is filled by itself. -/

namespace Issuance

open Placeholder (Grammar ofPath slot verbatimFilled)

/-! ### The layout of a header -/

namespace Wpt

/-- A credential laid out as a header lays it out. -/
def layout (context : String) (types : List String) (issuer : String) (subject : Json.Object)
    (issued id : String) : Json.Object :=
  [("@context", .array [.string context]),
    ("type", .array ((("VerifiableCredential" :: types)).map .string)),
    ("issuer", .string issuer),
    ("credentialSubject", .object subject),
    ("issuanceDate", .string issued),
    ("jti", .string id)]

/-- The placeholder of a path, as a text. -/
def slotText (path : String) : String := String.ofList (ofPath path.toList)

/-- An object of strings. -/
def Flat (o : Json.Object) : Prop := ∀ m ∈ o, ∃ s, m.2 = .string s

variable {context issuer issued id : String} {types : List String} {subject : Json.Object}
  {f : String → String}

theorem itemLeaves_map_string : ∀ texts : List String,
    Json.itemLeaves (texts.map .string) = texts.map .text
  | [] => rfl
  | _ :: rest => congrArg (_ :: ·) (itemLeaves_map_string rest)

theorem itemDepth_map_string (texts : List String) :
    Json.itemDepth (texts.map .string) ≤ 0 := by
  refine Json.itemDepth_le fun v hv => ?_
  obtain ⟨s, -, rfl⟩ := List.mem_map.mp hv
  exact le_rfl

theorem mapItems_map_string (f : String → String) : ∀ texts : List String,
    Json.mapItems f f (texts.map .string) = (texts.map f).map .string
  | [] => rfl
  | _ :: rest => congrArg (_ :: ·) (mapItems_map_string f rest)

namespace Flat

theorem number_not_mem (n : Json.Number) : ∀ {o : Json.Object}, Flat o →
    Json.Leaf.number n ∉ Json.memberLeaves o
  | [], _ => List.not_mem_nil
  | (name, v) :: rest, h => by
    obtain ⟨⟨s, rfl⟩, hrest⟩ := List.forall_mem_cons.mp h
    simpa [Json.memberLeaves, Json.leaves] using number_not_mem n hrest

theorem memberDepth_le {o : Json.Object} (h : Flat o) : Json.memberDepth o ≤ 0 := by
  refine Json.memberDepth_le fun m hm => ?_
  obtain ⟨s, hs⟩ := h m hm
  rw [hs]
  exact le_rfl

theorem distinctMembers {o : Json.Object} (h : Flat o) : Json.DistinctMembers o := by
  refine Json.distinctMembers_of_forall fun m hm => ?_
  obtain ⟨s, hs⟩ := h m hm
  rw [hs]
  trivial

end Flat

theorem number_not_mem_layout (h : Flat subject) (n : Json.Number) :
    Json.Leaf.number n ∉ (Json.object (layout context types issuer subject issued id)).leaves := by
  have hsubject := h.number_not_mem n
  have htypes := itemLeaves_map_string types
  simp [layout, Json.leaves, Json.memberLeaves, Json.itemLeaves, hsubject, htypes]

theorem depth_layout_le (h : Flat subject) :
    (Json.object (layout context types issuer subject issued id)).depth ≤ 2 := by
  have hsubject := h.memberDepth_le
  have htypes := itemDepth_map_string ("VerifiableCredential" :: types)
  simp only [layout, Json.depth, Json.memberDepth, Json.itemDepth]
  omega

theorem distinct_layout (h : Flat subject) (hnames : subject.names.Nodup) :
    (Json.object (layout context types issuer subject issued id)).Distinct := by
  refine ⟨?_, ⟨trivial, trivial⟩, ?_, trivial, ⟨hnames, h.distinctMembers⟩, trivial, trivial,
    trivial⟩
  · change (["@context", "type", "issuer", "credentialSubject", "issuanceDate", "jti"]).Nodup
    decide
  · exact distinctItems_map_string ("VerifiableCredential" :: types)

/-- Rewriting that keeps the names and the first type rewrites the values one by one. -/
theorem mapTexts_layout (hkept : ∀ s ∈ ["@context", "type", "issuer", "credentialSubject",
      "issuanceDate", "jti", "VerifiableCredential"], f s = s) :
    (Json.object (layout context types issuer subject issued id)).mapTexts f f =
      .object (layout (f context) (types.map f) (f issuer) (Json.mapMembers f f subject) (f issued)
        (f id)) := by
  simp only [List.forall_mem_cons, List.not_mem_nil, false_imp_iff, implies_true, and_true] at hkept
  obtain ⟨h₁, h₂, h₃, h₄, h₅, h₆, h₇⟩ := hkept
  simp only [layout, Json.mapTexts, Json.mapMembers, Json.mapItems, mapItems_map_string,
    List.map_cons, h₁, h₂, h₃, h₄, h₅, h₆, h₇]

/-- Completing sets the issuer and finds nothing else left empty. -/
theorem complete_layout (hissued : issued ≠ "") (hid : id ≠ "") (did : String)
    (instant : Instant) (tokenSource : String) :
    complete did instant tokenSource (layout context types issuer subject issued id) =
      layout context types did subject issued id := by
  have hsetIssued : issued.isEmpty = false := by simpa using hissued
  have hsetId : id.isEmpty = false := by simpa using hid
  simp [complete, fillIn, layout, Json.Object.insert, Json.Object.get?, isUnset, hsetIssued, hsetId]

/-! ### The subject -/

/-- The members of a subject: its id, and names with values of their own. -/
def subjectOf (value : String → Json) (names : List String) : Json.Object :=
  ("id", value "subjectDid") :: names.map fun name => (name, value name)

/-- The names in the subject behind its id: those of the fields, and the name of the subject's DID
    if no field has it. -/
def subjectNames (fields : List FieldSpec) : List String :=
  withName (fields.map FieldSpec.id) "subjectDid"

theorem names_subjectOf (value : String → Json) (names : List String) :
    (subjectOf value names).names = "id" :: names := by
  simp [subjectOf, Json.Object.names, Function.comp_def]

theorem nodup_subjectNames {fields : List FieldSpec} (hids : (fields.map FieldSpec.id).Nodup)
    (hid : "id" ∉ fields.map FieldSpec.id) : ("id" :: subjectNames fields).Nodup := by
  rw [subjectNames, withName]
  split
  · exact List.nodup_cons.mpr ⟨hid, hids⟩
  · next hdid =>
    have hnodup : (fields.map FieldSpec.id ++ ["subjectDid"]).Nodup := by
      rw [← List.concat_eq_append]
      exact hids.concat hdid
    refine List.nodup_cons.mpr ⟨fun hmem => ?_, hnodup⟩
    rcases List.mem_append.mp hmem with hmem | hmem
    · exact hid hmem
    · exact absurd hmem (by decide)

/-- Where no field is named as the id of the subject, each name of the subject has its own
    placeholder, and the id that of the subject's DID. -/
theorem subject_eq {fields : List FieldSpec} (hids : (fields.map FieldSpec.id).Nodup)
    (hid : "id" ∉ fields.map FieldSpec.id) :
    Wpt.subject fields = subjectOf slot (subjectNames fields) := by
  have hmembers : (("id", slot "subjectDid") :: fields.map fun f => (f.id, slot f.id)) =
      subjectOf slot (fields.map FieldSpec.id) := by
    rw [subjectOf, List.map_map]
    rfl
  have hnames : (subjectOf slot (fields.map FieldSpec.id)).names.Nodup := by
    rw [names_subjectOf]
    exact List.nodup_cons.mpr ⟨hid, hids⟩
  rw [Wpt.subject, hmembers, Json.Object.ofMembers_eq_self hnames, subjectNames, withName]
  have hmem : "subjectDid" ∈ (subjectOf slot (fields.map FieldSpec.id)).names ↔
      "subjectDid" ∈ fields.map FieldSpec.id := by
    rw [names_subjectOf, List.mem_cons]
    exact or_iff_right (by decide)
  by_cases hdid : "subjectDid" ∈ fields.map FieldSpec.id
  · obtain ⟨v, hv⟩ := Option.ne_none_iff_exists'.mp
      fun hnone => Json.Object.get?_eq_none_iff.mp hnone (hmem.mpr hdid)
    rw [if_pos hdid, hv]
    rfl
  · have hnone := Json.Object.get?_eq_none_iff.mpr (mt hmem.mp hdid)
    rw [if_neg hdid, hnone, Json.Object.insert_of_not_mem (mt hmem.mp hdid), subjectOf, subjectOf,
      List.map_append]
    rfl

theorem generated_eq {fields : List FieldSpec} (hids : (fields.map FieldSpec.id).Nodup)
    (hid : "id" ∉ fields.map FieldSpec.id) (context : String) (types : List String) :
    generated context types fields = layout context types (slotText "org.did")
      (subjectOf slot (subjectNames fields)) (slotText "now") (slotText "uuid") := by
  rw [← subject_eq hids hid]
  rfl

theorem flat_subjectOf {value : String → Json} (h : ∀ name, ∃ s, value name = .string s)
    (names : List String) : Flat (subjectOf value names) := by
  refine List.forall_mem_cons.mpr ⟨h "subjectDid", fun m hm => ?_⟩
  obtain ⟨name, -, rfl⟩ := List.mem_map.mp hm
  exact h name

theorem mapMembers_slots {value : String → Json} : ∀ {names : List String},
    (∀ name ∈ names, f name = name ∧ .string (f (slotText name)) = value name) →
      Json.mapMembers f f (names.map fun name => (name, slot name)) =
        names.map fun name => (name, value name)
  | [], _ => rfl
  | name :: rest, h => by
    obtain ⟨⟨hname, hvalue⟩, hrest⟩ := List.forall_mem_cons.mp h
    rw [List.map_cons, List.map_cons, Json.mapMembers, mapMembers_slots hrest, hname, ← hvalue]
    rfl

/-- Rewriting that keeps the names of a subject gives each the value of its placeholder. -/
theorem mapMembers_subjectOf {value : String → Json} {names : List String} (hid : f "id" = "id")
    (hdid : .string (f (slotText "subjectDid")) = value "subjectDid")
    (h : ∀ name ∈ names, f name = name ∧ .string (f (slotText name)) = value name) :
    Json.mapMembers f f (subjectOf slot names) = subjectOf value names := by
  rw [subjectOf, Json.mapMembers, mapMembers_slots h, hid, subjectOf, ← hdid]
  rfl

/-- Rewriting that keeps what holds no brace, the context and the types, and gives each placeholder
    a value, gives every name of the subject its value. -/
theorem mapTexts_generated {value : String → Json} {fields : List FieldSpec}
    (hids : (fields.map FieldSpec.id).Nodup) (hid : "id" ∉ fields.map FieldSpec.id)
    (hbraceless : ∀ s : String, '{' ∉ s.toList → f s = s)
    (hplain : ∀ s ∈ context :: types, f s = s)
    (hnames : ∀ name ∈ subjectNames fields, '{' ∉ name.toList)
    (hvalue : ∀ name ∈ "subjectDid" :: subjectNames fields,
      .string (f (slotText name)) = value name) :
    (Json.object (generated context types fields)).mapTexts f f =
      .object (layout context types (f (slotText "org.did"))
        (subjectOf value (subjectNames fields)) (f (slotText "now")) (f (slotText "uuid"))) := by
  obtain ⟨hcontext, htypes⟩ := List.forall_mem_cons.mp hplain
  obtain ⟨hdid, hrest⟩ := List.forall_mem_cons.mp hvalue
  have hsubject : Json.mapMembers f f (subjectOf slot (subjectNames fields)) =
      subjectOf value (subjectNames fields) :=
    mapMembers_subjectOf (hbraceless _ (by decide)) hdid fun name hname =>
      ⟨hbraceless name (hnames name hname), hrest name hname⟩
  rw [generated_eq hids hid, mapTexts_layout fun s hs => hbraceless s ?_, hcontext, hsubject,
    List.map_congr_left htypes, List.map_id']
  revert s
  decide

end Wpt

/-! ### What placeholders deliver -/

/-- An id that a placeholder asks for as a field, and that is not the id of the subject. -/
structure Deliverable (id : String) : Prop where
  ne_empty : id ≠ ""
  chars : ∀ c ∈ id.toList, isIdChar c = true
  free : id ∉ ["id", "org", "now", "uuid"]

theorem deliverable_subjectDid : Deliverable "subjectDid" where
  ne_empty := by decide
  chars := Text.forall_mem_of_all (by decide)
  free := by decide

theorem Deliverable.askable {id : String} (h : Deliverable id) : Askable id where
  ne_empty := h.ne_empty
  chars := h.chars
  unreserved := fun hmem => h.free (by simp only [List.mem_cons] at hmem ⊢; tauto)

namespace Template

/-- What a template delivers for an id: the value of the form, else the default, else nothing. -/
def delivered (t : Template) (form : Json.Object) (id : String) : Json :=
  ((form.get? id).or (t.defaults.get? id)).getD (.string "")

variable {t : Template} {ctx : RenderContext} {b : Placeholder.Builtins}

/-- The placeholder of a field becomes what the template delivers, as far as that is a string. -/
theorem string_verbatimFilled_slotText (hnames : ctx.form.names.Nodup) {id : String}
    (hid : Deliverable id) (hstring : ∃ s, t.delivered ctx.form id = .string s) :
    .string (verbatimFilled t.grammar b (t.scope ctx) (Wpt.slotText id)) =
      t.delivered ctx.form id := by
  rw [Wpt.slotText, Placeholder.verbatimFilled_ofPath (hid.askable.hasPath _)
    (hid.askable.toList_ne (by decide)) (hid.askable.toList_ne (by decide)), Placeholder.fill,
    Placeholder.lookup, hid.askable.value?_scope t hnames]
  obtain ⟨s, hs⟩ := hstring
  rw [delivered] at hs ⊢
  cases hget : (ctx.form.get? id).or (t.defaults.get? id) with
  | none => rfl
  | some v =>
    rw [hget] at hs
    obtain rfl : v = .string s := hs
    exact congrArg Json.string (String.ofList_toList)

/-- Strings of a form over strings of a template are delivered as strings. -/
theorem exists_delivered {form : Json.Object}
    (hform : ∀ id v, form.get? id = some v → ∃ s, v = .string s)
    (hdefaults : ∀ id v, t.defaults.get? id = some v → ∃ s, v = .string s) (id : String) :
    ∃ s, t.delivered form id = .string s := by
  rw [delivered]
  cases hvalue : form.get? id with
  | some v => exact hform id v hvalue
  | none =>
    cases hdefault : t.defaults.get? id with
    | some v => exact hdefaults id v hdefault
    | none => exact ⟨"", rfl⟩

end Template

/-! ### Rendering -/

namespace Wpt

variable {text : List Char} {t : Template} {types : List String}

/-- What a text without a body is loaded as, in terms of its header. -/
theorem generated_of_template (h : template text = .ok t) (hbody : body text = [])
    (htypes : Text.AllGiven (IsMeta "type+") (headerLines text) types) :
    (∃ c, t.context = some c ∧ t.skeleton = .object (generated c types t.fields)) ∧
      ∀ id v, t.defaults.get? id = some v → ∃ s, v = .string s := by
  have hparts := describes_of_template h
  have hreads := reads_of Directive.type?_eq_some_iff text
  constructor
  · obtain ⟨types', c, htypes', hcontext, hskeleton⟩ := hparts.skeleton
    obtain rfl : types' = types :=
      (htypes'.eq_filterMap hreads).trans (htypes.eq_filterMap hreads).symm
    rw [if_pos hbody] at hskeleton
    exact ⟨c, hcontext, hskeleton⟩
  · intro id v hv
    obtain ⟨-, -, -, hgiven⟩ := hparts.defaults
    obtain ⟨value, rfl, -⟩ := (hgiven id v).mp hv
    exact ⟨value, rfl⟩

end Wpt

namespace Renderer

variable {r : Renderer} {t : Template} {ctx : RenderContext}

/-- An id of letters, digits and dashes is taken as it is, and opens no placeholder. -/
theorem isRaw_and_ne_brace {c : Char} (h : c.isAlphanum = true ∨ c = '-') :
    Json.isRaw c = true ∧ c ≠ '{' := by
  rcases h with h | rfl
  · have hrange := Wpt.toNat_of_isAlphanum h
    have hne : ∀ d : Char, d.isAlphanum = false → c ≠ d := by
      rintro d hd rfl
      rw [h] at hd
      cases hd
    exact ⟨Json.isRaw_iff.mpr ⟨hne _ (by decide), hne _ (by decide), by omega⟩, hne _ (by decide)⟩
  · decide

/-- All names of the subject can be asked for. -/
theorem forall_deliverable {fields : List FieldSpec} (hfields : ∀ f ∈ fields, Deliverable f.id) :
    ∀ name ∈ Wpt.subjectNames fields, Deliverable name := by
  have hids : ∀ name ∈ fields.map FieldSpec.id, Deliverable name :=
    List.forall_mem_map.mpr hfields
  intro name hname
  rw [Wpt.subjectNames, withName] at hname
  split at hname
  · exact hids name hname
  · rcases List.mem_append.mp hname with hname | hname
    · exact hids name hname
    · exact List.mem_singleton.mp hname ▸ deliverable_subjectDid

/-- Every value of a skeleton made from a header is filled by itself. -/
theorem readBody_generated {c : String} {types : List String}
    (hskeleton : t.skeleton = .object (Wpt.generated c types t.fields))
    (hids : (t.fields.map FieldSpec.id).Nodup) (hfields : ∀ f ∈ t.fields, Deliverable f.id)
    (hplain : ∀ s ∈ c :: types, ¬Placeholder.opening <:+: s.toList)
    (hescaping : r.escaping = .jsonString)
    (hgenerator : ∀ n, ∀ d ∈ (r.ids n).toList, d.isAlphanum = true ∨ d = '-')
    (hnames : ctx.form.names.Nodup) (hstrings : ∀ id, ∃ s, t.delivered ctx.form id = .string s)
    (u : Usage) : ∃ issuer,
      readBody (t.filled r.escaping (r.builtins u) ctx) = .ok (Wpt.layout c types issuer
        (Wpt.subjectOf (t.delivered ctx.form) (Wpt.subjectNames t.fields))
        (String.ofList (r.clock u.clockReads).text) (r.ids u.idsTaken)) := by
  have hid : "id" ∉ t.fields.map FieldSpec.id := by
    intro hmem
    obtain ⟨f, hf, heq⟩ := List.mem_map.mp hmem
    exact (hfields f hf).free (heq ▸ List.mem_cons_self)
  have hdeliverable := forall_deliverable hfields
  have hslots : Wpt.Flat (Wpt.subjectOf slot (Wpt.subjectNames t.fields)) :=
    Wpt.flat_subjectOf (fun _ => ⟨_, rfl⟩) _
  obtain ⟨body, hmerged, hbody⟩ := exists_readBody_object hskeleton
    (Wpt.generated_eq hids hid c types ▸ (Wpt.depth_layout_le hslots).trans (by decide))
    (fun n hn => by
      rw [Wpt.generated_eq hids hid] at hn
      exact absurd hn (Wpt.number_not_mem_layout hslots n))
    hescaping (fun n d hd => (isRaw_and_ne_brace (hgenerator n d hd)).1) ctx u
  have hnow : verbatimFilled t.grammar (r.builtins u) (t.scope ctx) (Wpt.slotText "now") =
      String.ofList (r.clock u.clockReads).text := by
    refine Placeholder.verbatimFilled_now fun hmem => ?_
    exact absurd (isTimestampChar_of_mem_text hmem) (by decide)
  have huuid : verbatimFilled t.grammar (r.builtins u) (t.scope ctx) (Wpt.slotText "uuid") =
      r.ids u.idsTaken := by
    refine (Placeholder.verbatimFilled_uuid fun hmem => ?_).trans String.ofList_toList
    exact (isRaw_and_ne_brace (hgenerator _ _ hmem)).2 rfl
  have hvalue : ∀ name, Deliverable name →
      .string (verbatimFilled t.grammar (r.builtins u) (t.scope ctx) (Wpt.slotText name)) =
        t.delivered ctx.form name := fun name hname =>
    Template.string_verbatimFilled_slotText hnames hname (hstrings name)
  have hwritten := Wpt.mapTexts_generated hids hid
    (fun _ hs => Placeholder.verbatimFilled_eq_self (Placeholder.asksNothing_of_no_brace hs))
    (fun s hs => Placeholder.verbatimFilled_eq_self
      (Placeholder.asksNothing_of_no_opening (hplain s hs)))
    (fun name hname => (hdeliverable name hname).askable.not_mem (by decide))
    (List.forall_mem_cons.mpr ⟨hvalue _ deliverable_subjectDid, fun name hname =>
      hvalue name (hdeliverable name hname)⟩)
  have hdistinct : (Wpt.subjectOf (t.delivered ctx.form) (Wpt.subjectNames t.fields)).names.Nodup := by
    rw [Wpt.names_subjectOf]
    exact Wpt.nodup_subjectNames hids hid
  rw [hwritten, hnow, huuid,
    Json.merged_eq_self (Wpt.distinct_layout (Wpt.flat_subjectOf hstrings _) hdistinct)] at hmerged
  cases hmerged
  exact ⟨_, hbody⟩

/-- A WPT text that is loaded, has no body and gives its fields ids that placeholders can ask for is
    rendered to a credential in the layout of its header: with its context and its types, the
    organization's DID, the time, the id of the rendering, and a subject that holds first its id,
    which is the subject's DID, and then every field in the order of the header, each with the value
    of the form, else the default, else nothing. -/
theorem outcome_of_generated_skeleton {text : List Char} {types : List String}
    (hload : (Template.load .wpt text).outcome = .ok t) (hbody : Wpt.body text = [])
    (hfields : ∀ f ∈ t.fields,
      (∀ c ∈ f.id.toList, isIdChar c = true) ∧ f.id ∉ ["id", "org", "now", "uuid"])
    (htypes : Text.AllGiven (Wpt.IsMeta "type+") (Wpt.headerLines text) types)
    (hplain : ∀ type ∈ types, ¬Placeholder.opening <:+: type.toList)
    (hcontext : ∀ c, t.context = some c → ¬Placeholder.opening <:+: c.toList)
    (hescaping : r.escaping = .jsonString)
    (hgenerator : ∀ n, r.ids n ≠ "" ∧ ∀ d ∈ (r.ids n).toList, d.isAlphanum = true ∨ d = '-')
    (hnames : ctx.form.names.Nodup)
    (hform : ∀ id v, ctx.form.get? id = some v → ∃ s, v = .string s)
    (hvalid : t.validate (t.values ctx.form) = .ok ()) (u : Usage) :
    Text.AllGiven Wpt.IsField (Wpt.headerLines text) t.fields ∧
      ∃ c, t.context = some c ∧ (r.render t ctx u).result.outcome = .ok ⟨t.toSummary,
        [("@context", .array [.string c]),
          ("type", .array ((("VerifiableCredential" :: types)).map .string)),
          ("issuer", .string ctx.org.did),
          ("credentialSubject", .object <|
            ("id", t.delivered ctx.form "subjectDid") ::
              (withName (t.fields.map FieldSpec.id) "subjectDid").map
                fun id => (id, t.delivered ctx.form id)),
          ("issuanceDate", Json.ofText (r.clock u.clockReads).text),
          ("jti", .string (r.ids u.idsTaken))]⟩ := by
  have htemplate : Wpt.template text = .ok t := refuse_eq_ok_iff.mp hload
  obtain ⟨htidy, hwellFormed⟩ := Wpt.tidy_and_wellFormed htemplate
  obtain ⟨⟨c, hc, hskeleton⟩, hdefaults⟩ := Wpt.generated_of_template htemplate hbody htypes
  have hdeliverable : ∀ f ∈ t.fields, Deliverable f.id := by
    intro f hf
    obtain ⟨hchars, hfree⟩ := hfields f hf
    refine ⟨fun hempty => (htidy.ids f hf).1 ?_, hchars, hfree⟩
    rw [hempty]
    rfl
  obtain ⟨issuer, hread⟩ := readBody_generated hskeleton hwellFormed.ids hdeliverable
    (List.forall_mem_cons.mpr ⟨hcontext c hc, hplain⟩) hescaping (fun n => (hgenerator n).2) hnames
    (Template.exists_delivered hform hdefaults) u
  refine ⟨(Wpt.describes_of_template htemplate).fields, c, hc, ?_⟩
  have hissued : String.ofList (r.clock u.clockReads).text ≠ "" := fun hempty =>
    (r.clock u.clockReads).text_ne_nil (String.ofList_injective hempty)
  rw [outcome_of_readBody hvalid hread,
    Wpt.complete_layout hissued (hgenerator u.idsTaken).1]
  rfl

/-! ### A header to look at -/

namespace Specimen

/-- A header with two types, two fields and a default. -/
def header : List Char :=
  Text.joinLines <| ["@key: card", "@context: urn:card", "@type+: Card", "@type+: Pass",
    "@field name: text required", "@field dept: text", "@default dept: CS"].map String.toList

/-- A renderer with a clock that stands still, and with one id. -/
def registrar : Renderer :=
  { clock := fun _ => ⟨0, 0⟩, ids := fun _ => "0a-1", escaping := .jsonString }

/-- A form with a name that would end its string and ask for the id. -/
def applicant : RenderContext :=
  ⟨⟨"did:web:school", []⟩, [("name", .string r#"Ada"{{uuid}}"#)]⟩

/-- What is looked up of the template of the header. -/
def parts (t : Template) : List String × Option String × List (Option String) × Bool :=
  (t.fields.map FieldSpec.id, t.context,
    ["name", "dept", "subjectDid"].map fun id => (t.delivered applicant.form id).text?,
    (t.validate (t.values applicant.form)).toOption.isSome)

/-- The header gives two types. -/
theorem types_header :
    Text.AllGiven (Wpt.IsMeta "type+") (Wpt.headerLines header) ["Card", "Pass"] := by
  have hgiven := Text.allGiven_filterMap (Wpt.reads_of Wpt.Directive.type?_eq_some_iff header)
  have hlines : (Wpt.headerLines header).filterMap (Wpt.given? Wpt.Directive.type?) =
      ["Card", "Pass"] := by decide +kernel
  rwa [hlines] at hgiven

theorem plain_types : ∀ type ∈ ["Card", "Pass"], ¬Placeholder.opening <:+: type.toList := by
  decide +kernel

theorem plain_ids : ∀ id ∈ ["name", "dept"],
    (∀ c ∈ id.toList, isIdChar c = true) ∧ id ∉ ["id", "org", "now", "uuid"] := by
  have hchars : ["name", "dept"].all (fun id => id.toList.all isIdChar) = true := by decide
  have hother : ∀ id ∈ ["name", "dept"], id ∉ ["id", "org", "now", "uuid"] := by decide
  intro id hid
  exact ⟨List.all_eq_true.mp (List.all_eq_true.mp hchars id hid), hother id hid⟩

theorem registrar_ids (n : Nat) : registrar.ids n ≠ "" ∧
    ∀ d ∈ (registrar.ids n).toList, d.isAlphanum = true ∨ d = '-' := by
  have hchars : "0a-1".toList.all (fun d => d.isAlphanum || d == '-') = true := by decide
  have hne : "0a-1" ≠ "" := by decide
  refine ⟨hne, fun d hd => ?_⟩
  simpa using List.all_eq_true.mp hchars d hd

theorem issued_registrar :
    Json.ofText (registrar.clock 0).text = .string "1970-01-01T00:00:00Z" := by
  have htext : String.ofList (Instant.text ⟨0, 0⟩) = "1970-01-01T00:00:00Z" := by decide +kernel
  exact congrArg Json.string htext

theorem eq_string_of_text? : ∀ {v : Json} {s : String}, v.text? = some s → v = .string s
  | .string _, _, h => congrArg Json.string (Option.some.inj h)

theorem nodup_form : applicant.form.names.Nodup := List.nodup_singleton _

theorem form_strings : ∀ id v, applicant.form.get? id = some v → ∃ s, v = .string s := by
  intro id v h
  rw [applicant, Json.Object.get?] at h
  split_ifs at h
  · cases h
    exact ⟨_, rfl⟩
  · cases h

end Specimen

/-- The name comes from the form, the department from the default, and no DID was given. -/
theorem outcome_of_generated_skeleton_specimen :
    ∃ t, (Template.load .wpt Specimen.header).outcome = .ok t ∧
      (Specimen.registrar.render t Specimen.applicant {}).result.outcome =
        .ok ⟨t.toSummary,
          [("@context", .array [.string "urn:card"]),
            ("type", .array [.string "VerifiableCredential", .string "Card", .string "Pass"]),
            ("issuer", .string "did:web:school"),
            ("credentialSubject", .object
              [("id", .string ""), ("name", .string r#"Ada"{{uuid}}"#),
                ("dept", .string "CS"), ("subjectDid", .string "")]),
            ("issuanceDate", .string "1970-01-01T00:00:00Z"),
            ("jti", .string "0a-1")]⟩ := by
  have hread : (Template.load .wpt Specimen.header).outcome.toOption.map Specimen.parts =
      some (["name", "dept"], some "urn:card",
        [some r#"Ada"{{uuid}}"#, some "CS", some ""], true) := by decide +kernel
  obtain ⟨t, hsome, hparts⟩ := Option.map_eq_some_iff.mp hread
  simp only [Specimen.parts, List.map_cons, List.map_nil, Prod.mk.injEq, List.cons.injEq,
    and_true] at hparts
  obtain ⟨hids, hcontext, ⟨hname, hdept, hdid⟩, hvalid⟩ := hparts
  have hload := toOption_eq_some_iff.mp hsome
  have hfields : ∀ f ∈ t.fields,
      (∀ c ∈ f.id.toList, isIdChar c = true) ∧ f.id ∉ ["id", "org", "now", "uuid"] :=
    fun f hf => Specimen.plain_ids f.id (hids ▸ List.mem_map_of_mem hf)
  have hplain : ∀ c, t.context = some c → ¬Placeholder.opening <:+: c.toList := by
    intro c hc
    obtain rfl : "urn:card" = c := Option.some.inj (hcontext.symm.trans hc)
    decide +kernel
  obtain ⟨⟨⟩, hvalidated⟩ := Specimen.exists_eq_ok hvalid
  have hbody : Wpt.body Specimen.header = [] := by decide +kernel
  obtain ⟨-, c, hc, houtcome⟩ := outcome_of_generated_skeleton (r := Specimen.registrar) hload
    hbody hfields Specimen.types_header Specimen.plain_types hplain rfl Specimen.registrar_ids
    Specimen.nodup_form Specimen.form_strings hvalidated {}
  obtain rfl : "urn:card" = c := Option.some.inj (hcontext.symm.trans hc)
  refine ⟨t, hload, houtcome.trans ?_⟩
  have hnames : withName ["name", "dept"] "subjectDid" = ["name", "dept", "subjectDid"] := by decide
  have hsubject : (["name", "dept", "subjectDid"].map fun id =>
      (id, t.delivered Specimen.applicant.form id)) =
        [("name", .string r#"Ada"{{uuid}}"#), ("dept", .string "CS"),
          ("subjectDid", .string "")] := by
    simp only [List.map_cons, List.map_nil, Specimen.eq_string_of_text? hname,
      Specimen.eq_string_of_text? hdept, Specimen.eq_string_of_text? hdid]
  rw [hids, hnames, Specimen.issued_registrar, hsubject, Specimen.eq_string_of_text? hdid]
  rfl

end Renderer
end Issuance

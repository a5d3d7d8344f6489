import Issuance.Credential.Basic
import Issuance.Proofs.Credential.Completion
import Issuance.Proofs.Field.TypeString
import Issuance.Proofs.Json.Records
import Issuance.Proofs.Json.Spread
import Issuance.Proofs.Traced

/-! # Written and read again

    Fields, summaries, organizations, contexts and credentials are written as JSON and read from it.
    Each is a record of its own: first what its draft keeps while members are read, in whatever form
    they come, then the members it is written as, which fill a draft that builds it again. Members
    that are left out when they hold nothing are the ones that a draft may lack. An organization is
    no such record, since it keeps the members it does not know. It never keeps its DID among them,
    and so the placeholder for the DID finds the one that a credential names as its issuer. -/

namespace Issuance

open Json (Derives Writes)
open Json.Decoder (Fills Preserves Reads orNull)

/-! ### Fields -/

namespace FieldType

/-- A type as JSON. -/
def toJson (t : FieldType) : Json := .string t.name

theorem faithful_decoder : (Json.Decoder.string.map ofName).Faithful toJson :=
  Json.Decoder.faithful_string.map fun s => congrArg Json.string (name_ofName s)

end FieldType

namespace FieldSpec

/-- Choices as JSON. -/
def choicesJson (vs : List String) : Json := .array (vs.map .string)

/-- A draft whose type and choices are read back. -/
structure Draft.Kept (depth : Nat) (d : Draft) : Prop where
  type : ∀ t, d.type = some t →
    (Json.Decoder.string.map FieldType.ofName).Keeps FieldType.toJson depth t
  values : ∀ vs, d.values = some vs →
    (Json.Decoder.optional (.array .string)).Keeps (orNull choicesJson) depth vs

theorem kept_blank (depth : Nat) : Draft.Kept depth shape.blank := by
  constructor
  · rintro _ ⟨⟩
  · rintro _ ⟨⟩

theorem preserves_slots (depth : Nat) : Preserves shape.slots depth (Draft.Kept depth) := by
  have hvalues : (Json.Decoder.optional (.array .string)).Faithful (orNull choicesJson) :=
    Json.Decoder.faithful_string.array.optional fun _ => Json.noConfusion
  refine .cons ?_ <| .cons ?_ <| .cons ?_ <| .cons ?_ <| .cons ?_ .nil
  · exact fun d _ _ _ hd _ => ⟨hd.type, hd.values⟩
  · rintro d s t rest hd ht
    refine ⟨?_, hd.values⟩
    rintro _ ⟨⟩
    exact FieldType.faithful_decoder _ _ _ _ ht
  · exact fun d _ _ _ hd _ => ⟨hd.type, hd.values⟩
  · exact fun d _ _ _ hd _ => ⟨hd.type, hd.values⟩
  · rintro d s vs rest hd hvs
    refine ⟨hd.type, ?_⟩
    rintro _ ⟨⟩
    exact hvalues _ _ _ _ hvs

/-- A field is built from a draft with an id, a type and a label. -/
theorem exists_of_build {d : Draft} {f : FieldSpec} (h : shape.build d = .ok f) :
    ∃ id type label, d.id = some id ∧ d.type = some type ∧ d.label = some label ∧
      f = ⟨id, type, label, d.required.getD false, d.values.getD none⟩ := by
  simp only [shape] at h
  split at h
  · cases h
  · cases h
  · cases h
  · next id type label hid htype hlabel =>
    cases h
    exact ⟨id, type, label, hid, htype, hlabel, rfl⟩

/-- A field that is read is read back from its JSON value. -/
theorem faithful_decoder : decoder.Faithful toJson := by
  intro depth s f rest h
  obtain ⟨inside, d, rfl, hkept, hbuild⟩ :=
    Json.Decoder.exists_draft_of_record kept_blank preserves_slots h
  obtain ⟨id, type, label, -, htype, -, rfl⟩ := exists_of_build hbuild
  have hstring := Json.Decoder.keeps_string inside
  have htype := hkept.type type htype
  have hrest : ∀ {ms draft}, Fills shape.slots inside
      ⟨some id, some type, some label, some (d.required.getD false), none⟩ ms draft →
      Fills shape.slots inside shape.blank ([("id", .string id), ("type", .string type.name),
        ("label", .string label), ("required", .bool (d.required.getD false))] ++ ms) draft :=
    fun hms =>
      .member rfl rfl (hstring id).depth_le (hstring id).reads <|
        .member rfl rfl htype.depth_le htype.reads <|
          .member rfl rfl (hstring label).depth_le (hstring label).reads <|
            .member rfl rfl (Nat.zero_le inside) (Json.Decoder.reads_bool _) hms
  cases hvalues : d.values.getD none with
  | none => exact Json.Decoder.keeps_record (hrest (.nil _)) rfl rfl
  | some vs =>
    obtain ⟨_, hread, rfl⟩ : ∃ o, d.values = some o ∧ o = some vs := by
      cases hd : d.values with
      | none =>
        rw [hd] at hvalues
        cases hvalues
      | some o =>
        rw [hd] at hvalues
        exact ⟨o, rfl, hvalues⟩
    have hchoices := hkept.values _ hread
    exact Json.Decoder.keeps_record
      (hrest (.member rfl rfl hchoices.depth_le hchoices.reads (.nil _))) rfl rfl

end FieldSpec

/-! ### Summaries -/

namespace Summary

/-- Fields as JSON. -/
def fieldsJson (fs : List FieldSpec) : Json := .array (fs.map FieldSpec.toJson)

/-- A draft whose fields and defaults are read back. -/
structure Draft.Kept (depth : Nat) (d : Draft) : Prop where
  fields : ∀ fs, d.fields = some fs →
    (Json.Decoder.array FieldSpec.decoder).Keeps fieldsJson depth fs
  defaults : ∀ o, d.defaults = some o → Json.Decoder.object.Keeps .object depth o

theorem kept_blank (depth : Nat) : Draft.Kept depth shape.blank := by
  constructor
  · rintro _ ⟨⟩
  · rintro _ ⟨⟩

theorem preserves_slots (depth : Nat) : Preserves shape.slots depth (Draft.Kept depth) := by
  refine .cons ?_ <| .cons ?_ <| .cons ?_ <| .cons ?_ <| .cons ?_ .nil
  · exact fun d _ _ _ hd _ => ⟨hd.fields, hd.defaults⟩
  · exact fun d _ _ _ hd _ => ⟨hd.fields, hd.defaults⟩
  · exact fun d _ _ _ hd _ => ⟨hd.fields, hd.defaults⟩
  · rintro d s fs rest hd hfs
    refine ⟨?_, hd.defaults⟩
    rintro _ ⟨⟩
    exact FieldSpec.faithful_decoder.array _ _ _ _ hfs
  · rintro d s o rest hd ho
    refine ⟨hd.fields, ?_⟩
    rintro _ ⟨⟩
    exact Json.Decoder.faithful_object _ _ _ _ ho

/-- A summary is built from a draft with a key, a name and fields. -/
theorem exists_of_build {d : Draft} {m : Summary} (h : shape.build d = .ok m) :
    ∃ key name fields, d.key = some key ∧ d.name = some name ∧ d.fields = some fields ∧
      m = ⟨key, name, d.context.getD none, fields, d.defaults.getD []⟩ := by
  simp only [shape] at h
  split at h
  · cases h
  · cases h
  · cases h
  · next key name fields hkey hname hfields =>
    cases h
    exact ⟨key, name, fields, hkey, hname, hfields, rfl⟩

/-- The members up to the context, which may be missing. -/
def frontMembers (key name : String) (context : Option String) : Json.Object :=
  [("key", .string key), ("name", .string name)] ++
    match context with
    | none => []
    | some c => [("context", .string c)]

/-- The defaults, which are missing if there are none. -/
def defaultMembers (defaults : Json.Object) : Json.Object :=
  if defaults.isEmpty then [] else [("defaults", .object defaults)]

theorem toJson_eq (m : Summary) : m.toJson = .object
    (frontMembers m.key m.name m.context ++ ("fields", fieldsJson m.fields) ::
      defaultMembers m.defaults) := by
  simp only [toJson, frontMembers, fieldsJson, defaultMembers, List.append_assoc]
  rfl

theorem fills_front (inside : Nat) (key name : String) (context : Option String) :
    ∃ c : Option (Option String), c.getD none = context ∧ ∀ {ms draft},
      Fills shape.slots inside ⟨some key, some name, c, none, none⟩ ms draft →
        Fills shape.slots inside shape.blank (frontMembers key name context ++ ms) draft := by
  have hstring := Json.Decoder.keeps_string inside
  cases context with
  | none =>
    refine ⟨none, rfl, fun hms => ?_⟩
    exact .member rfl rfl (hstring key).depth_le (hstring key).reads <|
      .member rfl rfl (hstring name).depth_le (hstring name).reads hms
  | some c =>
    have hcontext : (Json.Decoder.optional .string).Reads (.string c) (some c) :=
      Json.Decoder.reads_some Json.noConfusion (hstring c).reads
    refine ⟨some (some c), rfl, fun hms => ?_⟩
    exact .member rfl rfl (hstring key).depth_le (hstring key).reads <|
      .member rfl rfl (hstring name).depth_le (hstring name).reads <|
        .member rfl rfl (hstring c).depth_le hcontext hms

theorem fills_defaults {inside : Nat} {d : Draft} {defaults : Json.Object}
    (hnone : d.defaults = none)
    (hkeeps : defaults ≠ [] → Json.Decoder.object.Keeps .object inside defaults) :
    ∃ o : Option Json.Object, o.getD [] = defaults ∧
      Fills shape.slots inside d (defaultMembers defaults) { d with defaults := o } := by
  rw [defaultMembers]
  cases defaults with
  | nil =>
    refine ⟨none, rfl, ?_⟩
    rw [← hnone]
    exact .nil d
  | cons m rest =>
    have hobject := hkeeps (List.cons_ne_nil m rest)
    exact ⟨some (m :: rest), rfl, .member rfl hnone hobject.depth_le hobject.reads (.nil _)⟩

/-- A summary that is read is read back from its JSON value. -/
theorem faithful_decoder : decoder.Faithful toJson := by
  intro depth s m rest h
  obtain ⟨inside, d, rfl, hkept, hbuild⟩ :=
    Json.Decoder.exists_draft_of_record kept_blank preserves_slots h
  obtain ⟨key, name, fields, -, -, hfields, rfl⟩ := exists_of_build hbuild
  have hfields := hkept.fields fields hfields
  have hkeeps : d.defaults.getD [] ≠ [] →
      Json.Decoder.object.Keeps .object inside (d.defaults.getD []) := by
    intro hne
    cases hd : d.defaults with
    | none => exact absurd (by rw [hd]; rfl) hne
    | some o => exact hkept.defaults o hd
  obtain ⟨c, hc, hfront⟩ := fills_front inside key name (d.context.getD none)
  obtain ⟨o, ho, hback⟩ := fills_defaults (d := ⟨some key, some name, c, some fields, none⟩) rfl
    hkeeps
  refine Json.Decoder.keeps_record
    (hfront (.member rfl rfl hfields.depth_le hfields.reads hback)) ?_ (toJson_eq _)
  rw [← hc, ← ho]
  rfl

end Summary

/-! ### Organizations -/

namespace Organization

variable {depth steps : Nat} {first : Bool} {s rest : List Char} {o : Organization}

/-- Members of an organization besides its DID that fit. -/
def Others (depth : Nat) (ms : List (String × Json)) : Prop :=
  ∀ m ∈ ms, m.1 ≠ "did" ∧ Json.Fits depth m.2

/-- The DID is never read as one of the others. -/
theorem others_of_membersFrom : ∀ {steps : Nat} {first : Bool} {did : Option String}
    {others : List (String × Json)} {s : List Char},
      membersFrom depth steps first did others s = .ok (o, rest) → Others depth others →
        ∃ ms, o.extra = Json.Object.ofMembers ms ∧ Others depth ms
  | 0, _, _, _, _, h, _ => by cases h
  | steps + 1, first, did, others, s, h, hothers => by
    rw [membersFrom] at h
    split at h
    · cases h
    · split at h
      · cases h
      · cases h
        exact ⟨others, rfl, hothers⟩
    · split at h
      · cases h
      · next name rest₁ _ =>
        split_ifs at h with hname
        · split at h
          · cases h
          · exact others_of_membersFrom h hothers
        · split at h
          · cases h
          · next v rest₂ hv =>
            obtain ⟨r, -, hread⟩ := Json.bind_eq_ok hv
            have hfits := Json.fits_of_readValue hread
            refine others_of_membersFrom h fun m hm => ?_
            rcases List.mem_append.mp hm with hm | hm
            · exact hothers m hm
            · rw [List.mem_singleton.mp hm]
              exact ⟨hname, hfits⟩

/-- The other members repeat no name, and none of them has the name of the DID. -/
def HasOneDid (o : Organization) : Prop := "did" ∉ o.extra.names ∧ o.extra.names.Nodup

/-- An organization that is read has no other member under the name of its DID. -/
theorem hasOneDid_and_fits (h : decoder depth s = .ok (o, rest)) :
    o.HasOneDid ∧ Json.Fits depth (.object o.extra) := by
  rw [decoder] at h
  split at h
  · cases h
  · split_ifs at h
    split at h
    · cases h
    · obtain ⟨ms, hextra, hms⟩ := others_of_membersFrom h fun _ h => absurd h List.not_mem_nil
      have hfits := Json.fits_ofMembers fun m hm => (hms m hm).2
      rw [← hextra] at hfits
      refine ⟨⟨fun hmem => ?_, hfits.1.1⟩, hfits⟩
      rw [hextra] at hmem
      rcases Json.Object.mem_names_overlay hmem with hmem | hmem
      · cases hmem
      · obtain ⟨m, hm, hname⟩ := List.mem_map.mp hmem
        exact (hms m hm).1 hname

/-- Without a name that is repeated the DID stands before the other members. -/
theorem HasOneDid.members_eq (h : o.HasOneDid) : o.members = ("did", .string o.did) :: o.extra :=
  Json.Object.overlay_eq_append (List.nodup_cons.mpr h)

theorem membersFrom_others (did : String) (t : List Char) : ∀ {ms others : List (String × Json)}
    {first : Bool} {s : List Char} {steps : Nat}, (∀ m ∈ ms, m.1 ≠ "did" ∧ m.2.Distinct) →
      Derives .Accepted (.members first ms) s → Json.memberDepth ms ≤ depth → s.length ≤ steps →
        membersFrom depth steps first (some did) others (s ++ t) =
          .ok (⟨did, Json.Object.ofMembers (others ++ ms)⟩, t)
  | _, _, _, _, 0, _, hs, _, hsteps => by
    exact absurd (List.length_pos_iff.mpr hs.ne_nil) (by omega)
  | [], others, first, s, steps + 1, _, hs, _, _ => by
    cases hs with
    | lastMember hw =>
      rw [List.append_assoc, List.singleton_append, membersFrom, Json.nextName_end hw,
        List.append_nil]
  | (name, v) :: ms, others, first, s, steps + 1, hms, hs, hdepth, hsteps => by
    obtain ⟨hvdepth, hmsdepth⟩ := max_le_iff.mp hdepth
    obtain ⟨⟨hname, hdistinct⟩, hmsDistinct⟩ := List.forall_mem_cons.mp hms
    obtain ⟨r, chars, r', w, u, s', hnext, hstring, rfl, hcolon, hw, hv, hs', hlength⟩ :=
      hs.exists_member t
    have hvalue := Json.Decoder.reads_value hdistinct u w (s' ++ t) depth hv hw
      (hs'.members_stops t) hvdepth
    have hread : membersFrom depth steps false (some did) (others ++ [(String.ofList chars, v)])
        (s' ++ t) = .ok (⟨did, Json.Object.ofMembers (others ++ (String.ofList chars, v) :: ms)⟩,
          t) := by
      rw [List.append_cons others _ ms]
      exact membersFrom_others did t hmsDistinct hs' hmsdepth (by omega)
    rw [membersFrom, hnext]
    simp only [hstring, if_neg hname, hcolon, Except.bind, hvalue, hread]

/-- Members that start with the DID are read as an organization. -/
theorem membersFrom_did {did : String} (t : List Char) {ms : List (String × Json)} {s : List Char}
    {steps : Nat} (hms : ∀ m ∈ ms, m.1 ≠ "did" ∧ m.2.Distinct)
    (hs : Derives .Accepted (.members true (("did", .string did) :: ms)) s)
    (hdepth : Json.memberDepth ms ≤ depth) (hsteps : s.length ≤ steps) :
    membersFrom depth steps true none [] (s ++ t) =
      .ok (⟨did, Json.Object.ofMembers ms⟩, t) := by
  obtain ⟨r, chars, r', w, u, s', hnext, hstring, hname, hcolon, hw, hv, hs', hlength⟩ :=
    hs.exists_member t
  cases steps with
  | zero => omega
  | succ steps =>
    have hvalue := Json.Decoder.reads_string did u w (s' ++ t) depth hv hw (hs'.members_stops t)
      (Nat.zero_le depth)
    have hread : membersFrom depth steps false (some did) [] (s' ++ t) =
        .ok (⟨did, Json.Object.ofMembers ([] ++ ms)⟩, t) :=
      membersFrom_others did t hms hs' hdepth (by omega)
    rw [membersFrom, hnext]
    simp only [hstring, if_pos hname, hcolon, Except.bind, hvalue, hread, Option.isSome_none,
      Bool.false_eq_true, if_false, List.nil_append]

/-- An organization that is read is read back from its JSON value. -/
theorem faithful_decoder : decoder.Faithful toJson := by
  intro depth s o rest h
  obtain ⟨hone, ⟨-, hdistinct⟩, hdepth⟩ := hasOneDid_and_fits h
  have hjson : o.toJson = .object (("did", .string o.did) :: o.extra) := by
    rw [toJson, hone.members_eq]
  have hothers : ∀ m ∈ o.extra, m.1 ≠ "did" ∧ m.2.Distinct := by
    refine fun m hm => ⟨fun hname => hone.1 (hname ▸ List.mem_map_of_mem hm), ?_⟩
    exact Json.distinct_of_mem hdistinct m hm
  constructor
  · rw [hjson]
    simpa [Json.depth, Json.memberDepth] using hdepth
  · rw [hjson]
    intro s w t depth hs hw _ hdepth
    have hbrace : Json.isSpace '{' = false := by decide
    cases hs with
    | @object _ s hms =>
      cases depth with
      | zero => simp [Json.depth] at hdepth
      | succ inside =>
        have hinside : Json.memberDepth o.extra ≤ inside := by
          simpa [Json.depth, Json.memberDepth] using hdepth
        have hsteps : s.length ≤ Json.stepsFor (s ++ t) := by
          simp only [Json.stepsFor, List.length_append]
          omega
        have hread := membersFrom_did t hothers hms hinside hsteps
        rw [Json.Object.ofMembers_eq_self hone.2] at hread
        simp [decoder, Json.skipSpace_append hw, Json.skipSpace_cons hbrace, hread]

end Organization

/-! ### Contexts and credentials -/

namespace RenderContext

/-- A draft whose organization and form are read back. -/
structure Draft.Kept (depth : Nat) (d : Draft) : Prop where
  org : ∀ o, d.org = some o →
    Organization.decoder.Keeps Organization.toJson depth o ∧ o.HasOneDid
  form : ∀ o, d.form = some o → Json.Decoder.object.Keeps .object depth o

theorem kept_blank (depth : Nat) : Draft.Kept depth shape.blank := by
  constructor
  · rintro _ ⟨⟩
  · rintro _ ⟨⟩

theorem preserves_slots (depth : Nat) : Preserves shape.slots depth (Draft.Kept depth) := by
  refine .cons ?_ <| .cons ?_ .nil
  · rintro d s o rest hd ho
    refine ⟨?_, hd.form⟩
    rintro _ ⟨⟩
    exact ⟨Organization.faithful_decoder _ _ _ _ ho, (Organization.hasOneDid_and_fits ho).1⟩
  · rintro d s o rest hd ho
    refine ⟨hd.org, ?_⟩
    rintro _ ⟨⟩
    exact Json.Decoder.faithful_object _ _ _ _ ho

/-- A context that is read is read back from its JSON value. -/
theorem faithful_decoder : decoder.Faithful toJson := by
  intro depth s c rest h
  obtain ⟨inside, d, rfl, hkept, hbuild⟩ :=
    Json.Decoder.exists_draft_of_record kept_blank preserves_slots h
  simp only [shape] at hbuild
  split at hbuild
  · cases hbuild
  · next org horg =>
    cases hbuild
    have horg := (hkept.org org horg).1
    have hform : Json.Decoder.object.Keeps .object inside (d.form.getD []) := by
      cases hd : d.form with
      | none =>
        -- The organization has shown that an object may stand here.
        have hinside : 1 ≤ inside := le_trans (Nat.le_add_left 1 _) horg.depth_le
        exact ⟨hinside, Json.Decoder.reads_object ⟨List.nodup_nil, trivial⟩⟩
      | some form => exact hkept.form form hd
    have hbuild : shape.build ⟨some org, some (d.form.getD [])⟩ = .ok ⟨org, d.form.getD []⟩ := rfl
    exact Json.Decoder.keeps_record
      (.member rfl rfl horg.depth_le horg.reads <|
        .member rfl rfl hform.depth_le hform.reads (.nil _)) hbuild rfl

/-- So the organization of a context that is read has one DID. -/
theorem hasOneDid_org {depth : Nat} {s rest : List Char} {c : RenderContext}
    (h : decoder depth s = .ok (c, rest)) : c.org.HasOneDid := by
  obtain ⟨inside, d, -, hkept, hbuild⟩ :=
    Json.Decoder.exists_draft_of_record kept_blank preserves_slots h
  simp only [shape] at hbuild
  split at hbuild
  · cases hbuild
  · next org horg =>
    cases hbuild
    exact (hkept.org org horg).2

end RenderContext

namespace Credential

/-- A draft whose summary and body are read back. -/
structure Draft.Kept (depth : Nat) (d : Draft) : Prop where
  summary : ∀ m, d.summary = some m → Summary.decoder.Keeps Summary.toJson depth m
  body : ∀ o, d.body = some o → Json.Decoder.object.Keeps .object depth o

theorem kept_blank (depth : Nat) : Draft.Kept depth shape.blank := by
  constructor
  · rintro _ ⟨⟩
  · rintro _ ⟨⟩

theorem preserves_slots (depth : Nat) : Preserves shape.slots depth (Draft.Kept depth) := by
  refine .cons ?_ <| .cons ?_ .nil
  · rintro d s m rest hd hm
    refine ⟨?_, hd.body⟩
    rintro _ ⟨⟩
    exact Summary.faithful_decoder _ _ _ _ hm
  · rintro d s o rest hd ho
    refine ⟨hd.summary, ?_⟩
    rintro _ ⟨⟩
    exact Json.Decoder.faithful_object _ _ _ _ ho

/-- A credential that is read is read back from its JSON value. -/
theorem faithful_decoder : decoder.Faithful toJson := by
  intro depth s c rest h
  obtain ⟨inside, d, rfl, hkept, hbuild⟩ :=
    Json.Decoder.exists_draft_of_record kept_blank preserves_slots h
  simp only [shape] at hbuild
  split at hbuild
  · cases hbuild
  · cases hbuild
  · next summary body hsummary hbody =>
    cases hbuild
    have hsummary := hkept.summary summary hsummary
    have hbody := hkept.body body hbody
    exact Json.Decoder.keeps_record
      (.member rfl rfl hsummary.depth_le hsummary.reads <|
        .member rfl rfl hbody.depth_le hbody.reads (.nil _)) rfl rfl

end Credential

/-! ### The DID of an organization -/

theorem Template.get?_scope_org (t : Template) (ctx : RenderContext) :
    (t.scope ctx).get? "org" = some ctx.org.toJson := by
  have hname : contextName ≠ "org" := by decide
  rw [scope]
  split
  · rw [Json.Object.get?_insert_of_ne hname, Json.Object.get?_insert_self]
  · rw [Json.Object.get?_insert_self]

/-- The placeholder for the DID of the organization finds the DID. -/
theorem Organization.HasOneDid.lookup_did {o : Organization} (h : o.HasOneDid) (t : Template)
    (form : Json.Object) :
    Placeholder.lookup (t.scope ⟨o, form⟩) "org.did".toList = some o.did.toList := by
  have hpath : Text.splitOn '.' "org.did".toList = ["org".toList, "did".toList] := by decide
  have horg : Json.member? (String.ofList "org".toList) (.object (t.scope ⟨o, form⟩)) =
      some (.object (("did", .string o.did) :: o.extra)) := by
    rw [String.ofList_toList, Json.member?, t.get?_scope_org, toJson, h.members_eq]
  have hdid : Json.member? (String.ofList "did".toList)
      (.object (("did", .string o.did) :: o.extra)) = some (.string o.did) := by
    rw [String.ofList_toList, Json.member?, Json.Object.get?, if_pos rfl]
  simp only [Placeholder.lookup, Placeholder.value?, hpath, Placeholder.descend, horg, hdid,
    Option.bind_some, Option.map_some, Placeholder.shown]

/-! ### All of them -/

/-- Whatever is read from a text is read from every text of its JSON value again, and as the same.
    As far as its numbers are read back, the compact form and the spread form are such texts, and
    what is read from either is written as that form again. -/
def Json.Decoder.Stable {α : Type} (inner : Json.Decoder α) (toJson : α → Json) : Prop :=
  ∀ text a, inner.run text = .ok a →
    (∀ text', Writes .Accepted (toJson a) text' → inner.run text' = .ok a) ∧
    ((∀ n, .number n ∈ (toJson a).leaves → n.ReadsBack) →
      ∀ form, form = Json.compact ∨ form = Json.spread →
        inner.run (form (toJson a)) = .ok a ∧
        ∀ b, inner.run (form (toJson a)) = .ok b → form (toJson b) = form (toJson a))

theorem Json.Decoder.Faithful.stable {α : Type} {inner : Json.Decoder α} {toJson : α → Json}
    (h : inner.Faithful toJson) : inner.Stable toJson := by
  intro text a hrun
  refine ⟨fun text' => h.run_eq_ok hrun, fun hnumbers form hform => ?_⟩
  have hwrites : Writes .Accepted (toJson a) (form (toJson a)) := by
    rcases hform with rfl | rfl
    · exact Json.writes_compact hnumbers
    · exact Json.writes_spread hnumbers
  have hread := h.run_eq_ok hrun hwrites
  refine ⟨hread, fun b hb => ?_⟩
  cases hread.symm.trans hb
  rfl

/-- Fields, summaries, organizations, contexts and credentials that are read from JSON are written
    as JSON that is read as the same again. No organization that is read, by itself or in a context,
    has another member under the name of its DID; so its placeholder finds the DID that becomes the
    issuer. -/
theorem stable_decoders :
    FieldSpec.decoder.Stable FieldSpec.toJson ∧ Summary.decoder.Stable Summary.toJson ∧
      Organization.decoder.Stable Organization.toJson ∧
      RenderContext.decoder.Stable RenderContext.toJson ∧
      Credential.decoder.Stable Credential.toJson ∧
      ∀ o, ((∃ text, Organization.decoder.run text = .ok o) ∨
          ∃ text form, RenderContext.decoder.run text = .ok ⟨o, form⟩) →
        "did" ∉ o.extra.names ∧ ∀ (r : Renderer) (t : Template) (form : Json.Object) (u : Usage),
          Placeholder.lookup (t.scope ⟨o, form⟩) "org.did".toList = some o.did.toList ∧
          ∀ cred, (r.render t ⟨o, form⟩ u).result.outcome = .ok cred →
            cred.body.get? "issuer" = some (.string o.did) := by
  refine ⟨FieldSpec.faithful_decoder.stable, Summary.faithful_decoder.stable,
    Organization.faithful_decoder.stable, RenderContext.faithful_decoder.stable,
    Credential.faithful_decoder.stable, fun o hread => ?_⟩
  have hone : o.HasOneDid := by
    rcases hread with ⟨text, hrun⟩ | ⟨text, form, hrun⟩
    · obtain ⟨rest, hread⟩ := Json.Decoder.exists_read_of_run hrun
      exact (Organization.hasOneDid_and_fits hread).1
    · obtain ⟨rest, hread⟩ := Json.Decoder.exists_read_of_run hrun
      exact RenderContext.hasOneDid_org hread
  refine ⟨hone.1, fun r t form u => ⟨hone.lookup_did t form, fun cred hcred => ?_⟩⟩
  obtain ⟨body, -, rfl⟩ := Renderer.exists_readBody_of_outcome hcred
  exact get?_complete_issuer _ _ _ _

namespace Specimen

/-- A field as an array, without the choices it may leave out. -/
def fieldText : List Char := "[\"size\", \"wide\", \"Size\", true]".toList

/-- The field that is read. -/
def wideField : FieldSpec := ⟨"size", .other "wide", "Size", true, none⟩

/-- A context with its members in another order, one that nobody asks for, and a repeated name. -/
def readContextText : List Char :=
  (r#"{ "x": [1e999], "form": {}, "org": {"rooms": 7, "# ++
    r#""did": "did:web:school", "rooms": 12} }"#).toList

/-- The number in a leaf, if it is one. -/
def number? : Json.Leaf → Option Json.Number
  | .number n => some n
  | .name _ => none
  | .text _ => none

theorem field_read : FieldSpec.decoder.run fieldText = .ok wideField := by
  have h : (FieldSpec.decoder.run fieldText).toOption = some wideField := by decide +kernel
  exact toOption_eq_some_iff.mp h

theorem exists_context_read : ∃ ctx, RenderContext.decoder.run readContextText = .ok ctx ∧
    ctx.org.did = "did:web:school" ∧ ctx.org.extra.names = ["rooms"] ∧
    ctx.toJson.leaves.filterMap number? = [.whole 12] := by
  have h : (RenderContext.decoder.run readContextText).toOption.map (fun ctx =>
      (ctx.org.did, ctx.org.extra.names, ctx.toJson.leaves.filterMap number?)) =
        some ("did:web:school", ["rooms"], [.whole 12]) := by decide +kernel
  obtain ⟨ctx, hread, hctx⟩ := Option.map_eq_some_iff.mp h
  simp only [Prod.mk.injEq] at hctx
  exact ⟨ctx, toOption_eq_some_iff.mp hread, hctx⟩

theorem readsBack_of_leaves {v : Json} {ns : List Json.Number}
    (h : v.leaves.filterMap number? = ns) (hns : ∀ n ∈ ns, n.ReadsBack) :
    ∀ n, .number n ∈ v.leaves → n.ReadsBack := by
  intro n hn
  exact hns n (h ▸ List.mem_filterMap.mpr ⟨.number n, hn, rfl⟩)

end Specimen

/-- A field and a context that are read back, and the DID of an organization that was read. -/
theorem stable_decoders_specimen :
    FieldSpec.decoder.run Specimen.wideField.toJson.spread = .ok Specimen.wideField ∧
      ∃ ctx, RenderContext.decoder.run Specimen.readContextText = .ok ctx ∧
        RenderContext.decoder.run ctx.toJson.compact = .ok ctx ∧ ctx.org.extra.names = ["rooms"] ∧
        Placeholder.lookup ((Specimen.template (.object [])).scope ctx) "org.did".toList =
          some "did:web:school".toList := by
  obtain ⟨hfield, -, -, hcontext, -, horg⟩ := stable_decoders
  refine ⟨?_, ?_⟩
  · have hleaves : Specimen.wideField.toJson.leaves.filterMap Specimen.number? = [] := rfl
    have hnumbers := Specimen.readsBack_of_leaves hleaves fun n hn => absurd hn List.not_mem_nil
    exact ((hfield _ _ Specimen.field_read).2 hnumbers _ (.inr rfl)).1
  · obtain ⟨ctx, hread, hdid, hnames, hleaves⟩ := Specimen.exists_context_read
    have hnumbers := Specimen.readsBack_of_leaves hleaves
      (List.forall_mem_singleton.mpr (rfl : (Json.Number.whole 12).ReadsBack))
    refine ⟨ctx, hread, ((hcontext _ _ hread).2 hnumbers _ (.inl rfl)).1, hnames, ?_⟩
    rw [← hdid]
    exact ((horg _ (.inr ⟨_, _, hread⟩)).2 (Specimen.renderer .jsonString) _ ctx.form {}).1

end Issuance

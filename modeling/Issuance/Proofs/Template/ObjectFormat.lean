import Issuance.Proofs.Field.TypeString
import Issuance.Proofs.Json.Compact
import Issuance.Proofs.Json.Distinct
import Issuance.Proofs.Template.Building
import Mathlib.Data.List.Forall2

/-! # What a WPM value means

    A WPM value is a template just when it is an object with an object for its credential; whatever
    its description is, it is never a reason to refuse it. A name and a key are made up for where
    the description gives none, and every member among its fields makes a field: the mark of a
    required one is looked for in the same text that the type is read from. -/

namespace Issuance

namespace Wpm

open Text (Trimmed)

variable {raw v : Json} {name s : String} {text : List Char} {m : String × Json} {t : Template}

/-! ### What a value says -/

/-- The member of the description under a name; only objects have members. -/
def described? (raw : Json) (name : String) : Option Json :=
  (raw.member? "meta").bind (Json.member? name)

/-- The description gives a text under a name: a string that is not blank. -/
def GivesText (raw : Json) (name s : String) : Prop :=
  described? raw name = some (.string s) ∧ Text.allBlank s.toList = false

/-- The text in which a member among the fields has its type: a string without the white space
    around it, nothing for null, and the compact form of any other value. -/
inductive TypeText : Json → List Char → Prop
  | string (s : String) : TypeText (.string s) (Text.trim s.toList)
  | null : TypeText .null []
  | other {v : Json} : v ≠ .null → (∀ s, v ≠ .string s) → TypeText v v.compact

/-- The name of the type in such a text: what stands before a mark at the end, without the white
    space around it, or the whole text if there is no mark. -/
def NamesType (text name : List Char) : Prop :=
  (∃ front, text = front ++ ['!'] ∧ name = Text.trim front) ∨
    (text.getLast? ≠ some '!' ∧ name = text)

/-- The field that a member makes. Only a string can have the mark of a required field, and a type
    without a name is the type of texts. -/
structure Makes (m : String × Json) (f : FieldSpec) : Prop where
  id : f.id = m.1
  label : f.label = m.1
  required : f.required = true ↔ ∃ s front, m.2 = .string s ∧ Text.trim s.toList = front ++ ['!']
  type : ∃ text name, TypeText m.2 text ∧ NamesType text name ∧
    f.type = if name = [] then .text else .ofName (String.ofList name)
  values : f.values = none

/-- A template that holds what a value says: its credential as it is, the texts of its description
    or what stands for them, and a field for every member among the fields, in their order. -/
structure Describes (raw : Json) (t : Template) : Prop where
  skeleton : ∃ vc, raw.member? "vc" = some (.object vc) ∧ t.skeleton = .object vc
  name : GivesText raw "name" t.name ∨ (∀ s, ¬GivesText raw "name" s) ∧ t.name = defaultName
  key : GivesText raw "key" t.key ∨ (∀ s, ¬GivesText raw "key" s) ∧ t.key = t.name
  context : ∀ c, t.context = some c ↔ GivesText raw "context" c
  fields : ∀ members, described? raw "fields" = some (.object members) →
    List.Forall₂ Makes members t.fields
  noFields : (∀ members, described? raw "fields" ≠ some (.object members)) → t.fields = []
  required : ∀ members, described? raw "fields" = some (.object members) → ∀ f ∈ t.fields,
    f.required = true ↔ f.id ∈ TypeString.requiredIds (members.map fun m => (m.1, typeString m.2))
  defaults : t.defaults = []

/-! ### Texts of a description -/

/-- The description of a value; null where there is none, which has no members either. -/
def description (raw : Json) : Json := (raw.member? "meta").getD .null

theorem member?_description (raw : Json) (name : String) :
    (description raw).member? name = described? raw name := by
  rw [described?, description]
  cases raw.member? "meta" <;> rfl

theorem filledText?_description (raw : Json) :
    filledText? name (description raw) = some s ↔ GivesText raw name s := by
  rw [filledText?, member?_description, GivesText, Option.filter_eq_some_iff, Bool.not_eq_true']
  refine and_congr_left fun _ => ?_
  rw [Option.bind_eq_some_iff]
  constructor
  · rintro ⟨w, hw, htext⟩
    cases w with
    | string s' => cases htext; exact hw
    | _ => cases htext
  · exact fun h => ⟨_, h, rfl⟩

theorem not_blank_of_filledText? (h : filledText? name v = some s) :
    Text.allBlank s.toList = false := by
  simpa using (Option.filter_eq_some_iff.mp h).2

/-- A text of the description, or what stands for it where there is none. -/
theorem givesText_or (raw : Json) (name other : String) :
    let s := (filledText? name (description raw)).getD other
    GivesText raw name s ∨ (∀ s, ¬GivesText raw name s) ∧ s = other := by
  cases h : filledText? name (description raw) with
  | some s => exact .inl ((filledText?_description raw).mp h)
  | none =>
    refine .inr ⟨fun s hs => ?_, rfl⟩
    rw [(filledText?_description raw).mpr hs] at h
    cases h

theorem not_blank_getD (name : String) (v : Json) {other : String}
    (hother : Text.allBlank other.toList = false) :
    Text.allBlank ((filledText? name v).getD other).toList = false := by
  cases h : filledText? name v with
  | none => exact hother
  | some s => exact not_blank_of_filledText? h

/-! ### Type strings -/

theorem isBlank_of_isNumeric {c : Char} (h : Json.isNumeric c = true) : Text.isBlank c = false := by
  simp only [Json.isNumeric, Json.isDigit, Bool.or_eq_true, Bool.and_eq_true, decide_eq_true_eq,
    beq_iff_eq] at h
  rcases h with ((((⟨h0, h9⟩ | rfl) | rfl) | rfl) | rfl) | rfl
  · have hlow : 0x30 ≤ c.toNat := h0
    have hhigh : c.toNat ≤ 0x39 := h9
    exact Text.isBlank_of_toNat (by omega)
  all_goals decide

/-- A value other than a string or null neither starts nor ends with white space when it is written,
    and does not end with a mark. -/
theorem compact_ends (hnull : v ≠ .null) (hstring : ∀ s, v ≠ .string s) :
    Trimmed v.compact ∧ v.compact.getLast? ≠ some '!' := by
  have hbrackets : ∀ {a z : Char} (inner : List Char), Text.isBlank a = false →
      Text.isBlank z = false → z ≠ '!' →
      Trimmed (a :: inner ++ [z]) ∧ (a :: inner ++ [z]).getLast? ≠ some '!' := by
    intro a z inner ha hz hmark
    refine ⟨Text.trimmed_append (Text.stops_cons.mpr ha) (List.cons_ne_nil a inner)
      (Text.stops_cons.mpr hz) (List.cons_ne_nil z []), ?_⟩
    rw [List.getLast?_concat]
    exact fun h => hmark (Option.some.inj h)
  cases v with
  | null => exact absurd rfl hnull
  | string s => exact absurd rfl (hstring s)
  | bool b => cases b <;> exact ⟨by decide, by decide⟩
  | number n =>
    have hnumeric : ∀ c ∈ n.text, Json.isNumeric c = true := fun _ => Json.isNumeric_of_mem_text
    refine ⟨Text.trimmed_of_no_blank fun c hc => isBlank_of_isNumeric (hnumeric c hc), ?_⟩
    exact fun hlast => absurd (hnumeric '!' (List.mem_of_getLast? hlast)) (by decide)
  | array items => exact hbrackets (Json.compactItems items) (by decide) (by decide) (by decide)
  | object ms => exact hbrackets (Json.compactMembers ms) (by decide) (by decide) (by decide)

/-- A type string is the trimmed text in which a member has its type. -/
theorem typeText_typeString (v : Json) :
    TypeText v (typeString v).toList ∧ Trimmed (typeString v).toList ∧
      ((typeString v).toList.getLast? = some '!' →
        ∃ s, v = .string s ∧ Text.trim s.toList = (typeString v).toList) := by
  by_cases hstring : ∃ s, v = .string s
  · obtain ⟨s, rfl⟩ := hstring
    rw [typeString, String.toList_ofList]
    exact ⟨.string s, Text.trimmed_trim _, fun _ => ⟨s, rfl, rfl⟩⟩
  by_cases hnull : v = .null
  · subst hnull
    exact ⟨.null, by decide, fun h => by cases h⟩
  have hstring' : ∀ s, v ≠ .string s := fun s hs => hstring ⟨s, hs⟩
  have heq : (typeString v).toList = v.compact := by
    rw [typeString, Json.compactText, String.toList_ofList]
    · exact hstring'
    · exact hnull
  obtain ⟨htrimmed, hlast⟩ := compact_ends hnull hstring'
  rw [heq]
  exact ⟨.other hnull hstring', htrimmed, fun h => absurd h hlast⟩

/-- What is read from a trimmed text as the name of a type is its name. -/
theorem namesType_typeName {spec : String} (h : Trimmed spec.toList) :
    NamesType spec.toList (TypeString.typeName spec) := by
  have htrim : Text.trim spec.toList = spec.toList := h
  rw [TypeString.typeName, htrim, Text.dropFinal]
  split_ifs with hlast
  · obtain ⟨front, hfront⟩ := List.getLast?_eq_some_iff.mp hlast
    exact .inl ⟨front, hfront, by rw [hfront, List.dropLast_concat]⟩
  · exact .inr ⟨hlast, htrim⟩

/-- The field of a member is the one that it makes. -/
theorem makes_field (m : String × Json) : Makes m (field m) := by
  obtain ⟨htext, htrimmed, hmark⟩ := typeText_typeString m.2
  have htype : (field m).type = TypeString.fieldType (typeString m.2) := by dsimp only [field]
  rw [TypeString.fieldType_eq_typeNamed, TypeString.typeNamed] at htype
  refine ⟨rfl, rfl, ?_, ⟨_, _, htext, namesType_typeName htrimmed, htype⟩, rfl⟩
  change TypeString.isRequired (typeString m.2) = true ↔ _
  rw [TypeString.isRequired, beq_iff_eq]
  constructor
  · intro hlast
    obtain ⟨s, hs, htrim⟩ := hmark hlast
    obtain ⟨front, hfront⟩ := List.getLast?_eq_some_iff.mp hlast
    exact ⟨s, front, hs, htrim.trans hfront⟩
  · rintro ⟨s, front, hs, hfront⟩
    rw [hs, typeString, String.toList_ofList, hfront, List.getLast?_concat]

/-- A field is required just when its id is among the required ones, where no id is repeated. -/
theorem required_iff_mem_requiredIds {members : List (String × Json)}
    (hids : (Json.Object.names members).Nodup) (hm : m ∈ members) :
    (field m).required = true ↔
      m.1 ∈ TypeString.requiredIds (members.map fun m => (m.1, typeString m.2)) := by
  have hids' : ((members.map fun m => (m.1, typeString m.2)).map Prod.fst).Nodup := by
    rwa [List.map_map]
  exact (TypeString.mem_requiredIds_iff hids' (List.mem_map.mpr ⟨m, hm, rfl⟩)).symm

/-! ### The template of a value -/

/-- The template that a value with a credential makes. -/
def made (raw : Json) (vc : Json.Object) : Template :=
  let name := (filledText? "name" (description raw)).getD defaultName
  Template.ofParts ((filledText? "key" (description raw)).getD name) name
    (filledText? "context" (description raw)) (fields (description raw)) (.object vc)

theorem nodup_names_of_described? (hraw : raw.Distinct) {members : Json.Object}
    (h : described? raw "fields" = some (.object members)) : members.names.Nodup := by
  obtain ⟨written, hwritten, hget⟩ := Option.bind_eq_some_iff.mp h
  exact ((hraw.member? hwritten).member? hget).1

theorem fields_of_described? {members : Json.Object}
    (h : described? raw "fields" = some (.object members)) :
    fields (description raw) = members.map field := by
  rw [← member?_description] at h
  rw [fields, h]

theorem fields_of_not_described?
    (h : ∀ members, described? raw "fields" ≠ some (.object members)) :
    fields (description raw) = [] := by
  rw [fields]
  split
  · next members hmembers =>
    rw [member?_description] at hmembers
    exact absurd hmembers (h members)
  · rfl

/-- A value that repeats no name describes no id twice. -/
theorem nodup_ids (hraw : raw.Distinct) :
    ((fields (description raw)).map FieldSpec.id).Nodup := by
  by_cases hmembers : ∃ members, described? raw "fields" = some (.object members)
  · obtain ⟨members, hmembers⟩ := hmembers
    rw [fields_of_described? hmembers, List.map_map]
    exact nodup_names_of_described? hraw hmembers
  · rw [fields_of_not_described? fun members h => hmembers ⟨members, h⟩]
    exact List.nodup_nil

/-- Nothing that a description gives is refused when the template is built, as long as no id is
    repeated. -/
theorem template_of_credential (hids : ((fields (description raw)).map FieldSpec.id).Nodup)
    {vc : Json.Object} (hvc : raw.member? "vc" = some (.object vc)) :
    template raw = .ok (made raw vc) := by
  have hrepeat : firstRepeat [] ((fields (description raw)).map FieldSpec.id) = none :=
    firstRepeat_eq_none_iff.mpr ⟨hids, fun _ _ => List.not_mem_nil⟩
  have hdefault : Text.allBlank defaultName.toList = false := by decide
  have hname := not_blank_getD "name" (description raw) hdefault
  have hkey := not_blank_getD "key" (description raw) hname
  have hskeleton : (Body.json (.object vc)).skeleton = .ok (.object vc) := rfl
  rw [template, hvc]
  dsimp only
  rw [← description, Template.build_of_skeleton hkey hname hskeleton
    fun _ => not_blank_of_filledText?, hrepeat]
  rfl

theorem template_of_no_credential (h : ∀ vc, raw.member? "vc" ≠ some (.object vc)) :
    template raw = .error .objectLacksCredential := by
  rw [template]
  split
  · next vc hvc => exact absurd hvc (h vc)
  · rfl

theorem template_eq_ok_iff (hraw : raw.Distinct) :
    template raw = .ok t ↔ ∃ vc, raw.member? "vc" = some (.object vc) ∧ t = made raw vc := by
  by_cases hvc : ∃ vc, raw.member? "vc" = some (.object vc)
  · obtain ⟨vc, hvc⟩ := hvc
    rw [template_of_credential (nodup_ids hraw) hvc, hvc]
    simp [eq_comm]
  · rw [template_of_no_credential fun vc h => hvc ⟨vc, h⟩]
    refine iff_of_false (by rintro ⟨⟩) ?_
    rintro ⟨vc, h, -⟩
    exact hvc ⟨vc, h⟩

theorem describes_of_template (hraw : raw.Distinct) (h : template raw = .ok t) :
    Describes raw t := by
  obtain ⟨vc, hvc, rfl⟩ := (template_eq_ok_iff hraw).mp h
  refine ⟨⟨vc, hvc, rfl⟩, givesText_or raw "name" _, givesText_or raw "key" _,
    fun c => filledText?_description raw, fun members hmembers => ?_,
    fun hnone => fields_of_not_described? hnone, fun members hmembers f hf => ?_, rfl⟩
  · change List.Forall₂ Makes members (fields (description raw))
    rw [fields_of_described? hmembers, List.forall₂_map_right_iff, List.forall₂_same]
    exact fun m _ => makes_field m
  · change f ∈ fields (description raw) at hf
    rw [fields_of_described? hmembers] at hf
    obtain ⟨m, hm, rfl⟩ := List.mem_map.mp hf
    exact required_iff_mem_requiredIds (nodup_names_of_described? hraw hmembers) hm

end Wpm

/-! ### Loading -/

/-- A value in the object format is a template just when it is an object with an object for its
    credential, and is refused for lacking that and nothing else: whatever shape its description
    has, the template holds what the value says. A text is loaded as the value that it reads as. -/
theorem Template.refuse_template_wpm (raw : Json) (hraw : raw.Distinct) :
    ((∃ t, refuse (Wpm.template raw) = .ok t) ↔ ∃ members vc : Json.Object,
      raw = .object members ∧ Json.Object.get? "vc" members = some (.object vc)) ∧
    (∀ e, refuse (Wpm.template raw) = .error e → e = .templateInvalid .objectLacksCredential) ∧
    (∀ t, refuse (Wpm.template raw) = .ok t → Wpm.Describes raw t) ∧
    ∀ text, Json.parse text = .ok raw → (load .wpm text).outcome = refuse (Wpm.template raw) := by
  refine ⟨?_, ?_, ?_, ?_⟩
  · simp only [refuse_eq_ok_iff, Wpm.template_eq_ok_iff hraw]
    constructor
    · rintro ⟨t, vc, hvc, -⟩
      cases raw with
      | object members => exact ⟨members, vc, rfl, hvc⟩
      | _ => cases hvc
    · rintro ⟨members, vc, rfl, hvc⟩
      exact ⟨_, vc, hvc, rfl⟩
  · intro e he
    obtain ⟨flaw, rfl, hflaw⟩ := exists_flaw_of_refuse he
    by_cases hvc : ∃ vc, raw.member? "vc" = some (.object vc)
    · obtain ⟨vc, hvc⟩ := hvc
      rw [Wpm.template_of_credential (Wpm.nodup_ids hraw) hvc] at hflaw
      cases hflaw
    · rw [Wpm.template_of_no_credential fun vc h => hvc ⟨vc, h⟩] at hflaw
      cases hflaw
      rfl
  · exact fun t ht => Wpm.describes_of_template hraw (refuse_eq_ok_iff.mp ht)
  · intro text hparse
    simp only [load, Traced.ofExcept, demand, hparse]
    rfl

/-- A value whose description has a blank name, a key that is no text, and members of several
    kinds among its fields, the last of them under a blank name. -/
def Wpm.specimen : Json :=
  .object
    [("meta", .object
      [("name", .string " "), ("key", .bool true), ("context", .string "birth"),
        ("fields", .object
          [("born", .string " date! "), ("tags", .array [.string "x!"]), ("note", .string "!"),
            ("", .null)])]),
      ("vc", .object [])]

/-- The value is a template, which holds what it says. -/
theorem Template.refuse_template_wpm_specimen :
    Wpm.specimen.Distinct ∧
      ∃ t, refuse (Wpm.template Wpm.specimen) = .ok t ∧ Wpm.Describes Wpm.specimen t := by
  have hdistinct : Wpm.specimen.Distinct := by
    simp [Wpm.specimen, Json.Distinct, Json.DistinctMembers, Json.DistinctItems, Json.Object.names]
  obtain ⟨haccepted, -, hdescribed, -⟩ := refuse_template_wpm Wpm.specimen hdistinct
  obtain ⟨t, ht⟩ := haccepted.mpr ⟨_, _, rfl, rfl⟩
  exact ⟨hdistinct, t, ht, hdescribed t ht⟩

end Issuance

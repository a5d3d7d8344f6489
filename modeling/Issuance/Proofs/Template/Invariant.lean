import Issuance.Proofs.Json.Distinct
import Issuance.Proofs.Template.FieldFormats

/-! # What holds of every template

    Whatever a template is loaded from, it has a key and a name, its fields have ids of their own
    and list choices that can be chosen, and its skeleton is no blank text. Texts are trimmed where
    they are read, so what a template takes from one of the text formats has no white space around
    it. None of the loaders checks all of this: each leaves some of it to the way its parts are read
    and some to the building of the template. -/

namespace Issuance

open Text (Filled Trimmed)

/-! ### Choices -/

namespace FieldSpec

/-- Choices that a field may list: none twice, and each of them says something. -/
structure Listed (choices : List String) : Prop where
  nodup : choices.Nodup
  filled : ∀ c ∈ choices, Filled c.toList

/-- A field that lists choices lists at least one. -/
def HasChoices (f : FieldSpec) : Prop := ∀ vs, f.values = some vs → vs ≠ [] ∧ Listed vs

/-- One more choice keeps the list one that a field may have. -/
theorem Listed.addChoice {choices : List String} (h : Listed choices) (choice : List Char) :
    Listed (addChoice choices choice) := by
  rw [FieldSpec.addChoice]
  split_ifs with hskip
  · exact h
  · rw [not_or] at hskip
    refine ⟨?_, fun c hc => ?_⟩
    · exact List.nodup_append.mpr ⟨h.nodup, List.nodup_singleton _, fun c hc d hd hcd =>
        hskip.2 (List.mem_singleton.mp hd ▸ hcd ▸ hc)⟩
    · rcases List.mem_append.mp hc with hc | hc
      · exact h.filled c hc
      · rw [List.mem_singleton.mp hc, String.toList_ofList]
        exact ⟨hskip.1, Text.trimmed_trim choice⟩

theorem Listed.foldl_addChoice : ∀ (texts : List (List Char)) {choices : List String},
    Listed choices → Listed (texts.foldl FieldSpec.addChoice choices)
  | [], _, h => h
  | t :: rest, _, h => Listed.foldl_addChoice rest (h.addChoice t)

theorem listed_choicesOf (texts : List (List Char)) : Listed (choicesOf texts) :=
  Listed.foldl_addChoice texts ⟨List.nodup_nil, fun _ hc => absurd hc List.not_mem_nil⟩

/-- Choices that say something and are not there yet are added as they are. -/
theorem foldl_addChoice_eq_append : ∀ {vs choices : List String}, (choices ++ vs).Nodup →
    (∀ v ∈ vs, Filled v.toList) → (vs.map String.toList).foldl addChoice choices = choices ++ vs
  | [], choices, _, _ => (List.append_nil choices).symm
  | v :: rest, choices, hnodup, hfilled => by
    have hv := hfilled v List.mem_cons_self
    have htrim : Text.trim v.toList = v.toList := hv.2
    have hnew : v ∉ choices := fun hmem =>
      List.disjoint_of_nodup_append hnodup hmem List.mem_cons_self
    have hadd : addChoice choices v.toList = choices ++ [v] := by
      simp only [addChoice, htrim, String.ofList_toList]
      exact if_neg (not_or.mpr ⟨hv.1, hnew⟩)
    rw [List.append_cons] at hnodup
    rw [List.map_cons, List.foldl_cons, hadd, List.append_cons choices v rest]
    exact foldl_addChoice_eq_append hnodup fun w hw => hfilled w (List.mem_cons_of_mem v hw)

/-- Choices that a field may list are read as they are. -/
theorem Listed.choicesOf_eq {vs : List String} (h : Listed vs) :
    choicesOf (vs.map String.toList) = vs :=
  foldl_addChoice_eq_append h.nodup h.filled

/-- Whatever texts it is given, a field has choices or none. -/
theorem hasChoices_withValues (f : FieldSpec) (texts : List (List Char)) :
    (f.withValues texts).HasChoices := by
  intro vs hvs
  simp only [withValues] at hvs
  split_ifs at hvs with hnil
  cases hvs
  exact ⟨hnil, listed_choicesOf texts⟩

theorem hasChoices_of_none {f : FieldSpec} (h : f.values = none) : f.HasChoices := by
  intro vs hvs
  rw [h] at hvs
  cases hvs

end FieldSpec

/-! ### Templates -/

namespace Template

/-- A template as it is stored: it can be named, its fields can be told apart and filled, and its
    skeleton, if it is a text, says something. -/
structure WellFormed (t : Template) : Prop where
  key : Text.allBlank t.key.toList = false
  name : Text.allBlank t.name.toList = false
  context : ∀ c, t.context = some c → Text.allBlank c.toList = false
  ids : (t.fields.map FieldSpec.id).Nodup
  choices : ∀ f ∈ t.fields, f.HasChoices
  text : ∀ body, t.skeleton = .text body → Filled body.toList

/-- A template whose key, name, context and ids have no white space around them. -/
structure Tidy (t : Template) : Prop where
  key : Filled t.key.toList
  name : Filled t.name.toList
  context : ∀ c, t.context = some c → Filled c.toList
  ids : ∀ f ∈ t.fields, Filled f.id.toList

/-- What is left to show of a template that is tidy. -/
theorem Tidy.wellFormed {t : Template} (h : t.Tidy) (hids : (t.fields.map FieldSpec.id).Nodup)
    (hchoices : ∀ f ∈ t.fields, f.HasChoices)
    (htext : ∀ body, t.skeleton = .text body → Filled body.toList) : t.WellFormed where
  key := h.key.not_blank
  name := h.name.not_blank
  context c hc := (h.context c hc).not_blank
  ids := hids
  choices := hchoices
  text := htext

end Template

/-! ### WPML -/

namespace Wpml

variable {text line : List Char} {t : Template}

theorem IsEntry.filled {name value : String} (h : IsEntry name line value) :
    Filled value.toList := by
  obtain ⟨k, v, -, -, hv, hvalue⟩ := h
  exact hvalue ▸ Text.filled_trim hv

theorem modify_id (f : FieldSpec) (modifier : List Char) : (modify f modifier).id = f.id := by
  rw [modify]
  split
  · split_ifs <;> rfl
  · rfl

theorem hasChoices_modify {f : FieldSpec} (h : f.HasChoices) (modifier : List Char) :
    (modify f modifier).HasChoices := by
  rw [modify]
  split
  · split_ifs
    · exact f.hasChoices_withValues _
    · exact h
  · exact h

theorem foldl_modify_id : ∀ (modifiers : List (List Char)) (f : FieldSpec),
    (modifiers.foldl modify f).id = f.id
  | [], _ => rfl
  | m :: rest, f => (foldl_modify_id rest (modify f m)).trans (modify_id f m)

theorem hasChoices_foldl_modify : ∀ (modifiers : List (List Char)) {f : FieldSpec},
    f.HasChoices → (modifiers.foldl modify f).HasChoices
  | [], _, h => h
  | m :: rest, _, h => hasChoices_foldl_modify rest (hasChoices_modify h m)

theorem filled_of_field? {f : FieldSpec} (h : field? line = some f) :
    Filled f.id.toList ∧ f.HasChoices := by
  rw [field?] at h
  split at h
  · cases h
  · next primary modifiers hcommas =>
    split at h
    · next id type label rest =>
      split_ifs at h with hblank
      cases h
      refine ⟨?_, hasChoices_foldl_modify modifiers (FieldSpec.hasChoices_of_none rfl)⟩
      rw [foldl_modify_id, String.toList_ofList]
      exact Text.filled_trim (Bool.eq_false_iff.mpr hblank)
    · cases h

theorem tidy_and_wellFormed (h : template text = .ok t) : t.Tidy ∧ t.WellFormed := by
  have hparts := describes_of_template h
  have hread : ∀ f ∈ t.fields, Filled f.id.toList ∧ f.HasChoices := by
    intro f hf
    rw [hparts.fields] at hf
    obtain ⟨line, -, hline⟩ := List.mem_filterMap.mp (Text.mem_of_mem_firstsBy hf)
    exact filled_of_field? hline
  have htidy : t.Tidy := by
    refine ⟨?_, ?_, fun c hc => ?_, fun f hf => (hread f hf).1⟩
    · obtain ⟨_, -, hentry⟩ := hparts.key.exists_mem
      exact hentry.filled
    · obtain ⟨_, -, hentry⟩ := hparts.name.exists_mem
      exact hentry.filled
    · rcases (hparts.context c).mp hc with hlast | ⟨-, hlast⟩
      · obtain ⟨_, -, hentry⟩ := hlast.exists_mem
        exact hentry.filled
      · obtain ⟨_, -, hentry⟩ := hlast.exists_mem
        exact hentry.filled
  refine ⟨htidy, htidy.wellFormed ?_ (fun f hf => (hread f hf).2) fun s hs => ?_⟩
  · rw [hparts.fields]
    exact Text.nodup_map_firstsBy _
  · obtain ⟨key, name, -, -, hbody, ht⟩ := template_eq_ok_iff.mp h
    rw [ht] at hs
    cases hs
    rw [String.toList_ofList]
    exact ⟨fun hnil => hbody (body_eq_nil_iff.mp hnil), Text.trimmed_trim _⟩

end Wpml

/-! ### WPT -/

namespace Wpt

variable {text line : List Char} {t : Template}

theorem IsMeta.filled {name value : String} (h : IsMeta name line value) :
    Filled value.toList := by
  obtain ⟨w, v, -, -, hv, hvalue⟩ := h
  exact hvalue ▸ Text.filled_trim hv

theorem hasChoices_fieldOf (id spec : List Char) : (fieldOf id spec).HasChoices := by
  rw [fieldOf]
  split
  · exact FieldSpec.hasChoices_withValues _ _
  · exact FieldSpec.hasChoices_of_none rfl

theorem IsField.filled {f : FieldSpec} (h : IsField line f) :
    Filled f.id.toList ∧ f.HasChoices := by
  obtain ⟨id, spec, -, -, hid, -, rfl⟩ := h
  refine ⟨?_, hasChoices_fieldOf _ _⟩
  rw [fieldOf_id, String.toList_ofList]
  exact Text.filled_trim hid

theorem tidy_and_wellFormed (h : template text = .ok t) : t.Tidy ∧ t.WellFormed := by
  have hparts := describes_of_template h
  have hread : ∀ f ∈ t.fields, Filled f.id.toList ∧ f.HasChoices := by
    intro f hf
    obtain ⟨_, -, hfield⟩ := hparts.fields.exists_mem f hf
    exact hfield.filled
  have hkey : Filled t.key.toList := by
    obtain ⟨_, -, hmeta⟩ := hparts.key.exists_mem
    exact hmeta.filled
  have htidy : t.Tidy := by
    refine ⟨hkey, ?_, fun c hc => ?_, fun f hf => (hread f hf).1⟩
    · rcases hparts.name with hlast | ⟨-, hname⟩
      · obtain ⟨_, -, hmeta⟩ := hlast.exists_mem
        exact hmeta.filled
      · rwa [hname]
    · obtain ⟨c', hc', hgiven⟩ := hparts.context
      cases hc.symm.trans hc'
      rcases hgiven with hlast | ⟨-, rfl⟩
      · obtain ⟨_, -, hmeta⟩ := hlast.exists_mem
        exact hmeta.filled
      · exact ⟨by decide, by decide⟩
  refine ⟨htidy, htidy.wellFormed ?_ (fun f hf => (hread f hf).2) fun s hs => ?_⟩
  · obtain ⟨-, hnodup, key, -, rfl⟩ := template_eq_ok_iff.mp h
    rwa [templateOf_eq]
  · obtain ⟨types, c, -, -, hskeleton⟩ := hparts.skeleton
    rw [hskeleton] at hs
    split_ifs at hs with hbody
    cases hs
    rw [String.toList_ofList]
    exact ⟨hbody, trimmed_body text⟩

/-! The skeleton that is made from a header -/

theorem distinctItems_map_string : ∀ texts : List String, Json.DistinctItems (texts.map .string)
  | [] => trivial
  | _ :: rest => ⟨trivial, distinctItems_map_string rest⟩

theorem distinctMembers_slots : ∀ fields : List FieldSpec,
    Json.DistinctMembers (fields.map fun f => (f.id, Placeholder.slot f.id))
  | [] => trivial
  | _ :: rest => ⟨trivial, distinctMembers_slots rest⟩

/-- The subject repeats no name, also where a field is named as the subject or its id. -/
theorem distinct_subject (fields : List FieldSpec) : (Json.object (subject fields)).Distinct := by
  have hmembers : Json.DistinctMembers
      (("id", Placeholder.slot "subjectDid") ::
        fields.map fun f => (f.id, Placeholder.slot f.id)) :=
    ⟨trivial, distinctMembers_slots fields⟩
  have hobject := Json.distinct_ofMembers hmembers
  have hslot : (Placeholder.slot "subjectDid").Distinct := trivial
  rw [subject]
  split_ifs
  · exact hobject
  · exact ⟨Json.Object.nodup_names_insert hobject.1 _ _,
      Json.distinctMembers_insert hslot hobject.2⟩

theorem distinct_generated (context : String) (types : List String) (fields : List FieldSpec) :
    (Json.object (generated context types fields)).Distinct := by
  refine ⟨?_, ⟨trivial, trivial⟩, ?_, trivial, distinct_subject fields, trivial, trivial, trivial⟩
  · change (["@context", "type", "issuer", "credentialSubject", "issuanceDate", "jti"]).Nodup
    decide
  · exact distinctItems_map_string ("VerifiableCredential" :: types)

theorem distinct_skeleton (h : template text = .ok t) {members : Json.Object}
    (hmembers : t.skeleton = .object members) : (Json.object members).Distinct := by
  obtain ⟨types, c, -, -, hskeleton⟩ := (describes_of_template h).skeleton
  rw [hskeleton] at hmembers
  split_ifs at hmembers
  cases hmembers
  exact distinct_generated c types t.fields

end Wpt

/-! ### WPM -/

namespace Template

/-- What is asked of a template when it is built. -/
theorem exists_parts_of_build {key name : String} {context : Option String}
    {fields : List FieldSpec} {body : Body} {t : Template}
    (h : build key name context fields body = .ok t) :
    Text.allBlank key.toList = false ∧ Text.allBlank name.toList = false ∧
      (fields.map FieldSpec.id).Nodup ∧ ∃ skeleton, body.skeleton = .ok skeleton ∧
        t = ofParts key name (context.filter fun c => !Text.allBlank c.toList) fields skeleton := by
  rw [build] at h
  split_ifs at h with hkey hname
  split at h
  · cases h
  · next skeleton hskeleton =>
    split at h
    · cases h
    · next hrepeat =>
      cases h
      exact ⟨Bool.eq_false_iff.mpr hkey, Bool.eq_false_iff.mpr hname,
        (firstRepeat_eq_none_iff.mp hrepeat).1, skeleton, hskeleton, rfl⟩

end Template

namespace Wpm

variable {raw : Json} {t : Template}

theorem hasChoices_of_mem_fields {description : Json} {f : FieldSpec}
    (h : f ∈ fields description) : f.HasChoices := by
  rw [fields] at h
  split at h
  · obtain ⟨m, -, rfl⟩ := List.mem_map.mp h
    exact FieldSpec.hasChoices_of_none rfl
  · cases h

/-- The skeleton is the object that the value holds for it. -/
theorem wellFormed_and_skeleton (h : template raw = .ok t) :
    t.WellFormed ∧ ∃ vc, raw.member? "vc" = some (.object vc) ∧ t.skeleton = .object vc := by
  rw [template] at h
  split at h
  · next vc hvc =>
    obtain ⟨hkey, hname, hids, skeleton, hskeleton, rfl⟩ := Template.exists_parts_of_build h
    cases hskeleton
    refine ⟨⟨hkey, hname, fun c hc => ?_, hids, fun f hf => hasChoices_of_mem_fields hf, ?_⟩, vc,
      hvc, rfl⟩
    · simpa using (Option.filter_eq_some_iff.mp hc).2
    · rintro body ⟨⟩
  · cases h

theorem distinct_skeleton (hraw : raw.Distinct) (h : template raw = .ok t) {members : Json.Object}
    (hmembers : t.skeleton = .object members) : (Json.object members).Distinct := by
  obtain ⟨-, vc, hvc, hskeleton⟩ := wellFormed_and_skeleton h
  rw [hskeleton] at hmembers
  cases hmembers
  cases raw with
  | object written => exact Json.distinct_of_get? hraw.2 hvc
  | _ => cases hvc

end Wpm
end Issuance

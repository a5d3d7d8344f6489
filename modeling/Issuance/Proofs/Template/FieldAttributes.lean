import Issuance.Proofs.Template.Invariant
import Issuance.Proofs.Text.Words
import Mathlib.Data.List.Infix

/-! # The attributes of a field directive

    Behind the type of a field each attribute is looked for by itself, wherever it stands. A label
    is found where it is written, because no other attribute holds its quotes. The word that makes
    the field required counts wherever it stands alone, in the label and among the choices too; and
    choices are found where they are written unless the label has the mark of choices in front of
    something. -/

namespace Issuance

open Text (Trimmed Filled Stops StandsAlone)

/-! ### Choices -/

/-- The texts in a list, each at its first place. -/
def firsts (vs : List String) : List String := Text.firstsBy id vs

/-- The texts in a list that say something, each at its first place. -/
def distinctChoices (vs : List String) : List String := firsts (vs.filter (· ≠ ""))

theorem distinctChoices_cons {v : String} (hv : v ≠ "") (rest : List String) :
    distinctChoices (v :: rest) = v :: (distinctChoices rest).filter (· ≠ v) := by
  simp [distinctChoices, firsts, hv, Text.firstsBy]

theorem foldl_addChoice_eq_distinctChoices {vs : List String} (h : ∀ v ∈ vs, Trimmed v.toList)
    (choices : List String) :
    (vs.map String.toList).foldl FieldSpec.addChoice choices =
      choices ++ (distinctChoices vs).filter (· ∉ choices) := by
  induction vs generalizing choices with
  | nil => simp [distinctChoices, firsts, Text.firstsBy]
  | cons v rest ih =>
    have hv : Text.trim v.toList = v.toList := h v List.mem_cons_self
    rw [List.map_cons, List.foldl_cons, ih fun w hw => h w (List.mem_cons_of_mem v hw)]
    simp only [FieldSpec.addChoice, hv, String.ofList_toList, String.toList_eq_nil_iff]
    by_cases hblank : v = ""
    · simp [distinctChoices, hblank]
    rw [distinctChoices_cons hblank]
    by_cases hmem : v ∈ choices
    · rw [if_pos (.inr hmem), List.filter_cons_of_neg (by simpa using hmem), List.filter_filter]
      refine congrArg _ (List.filter_congr fun w _ => ?_)
      by_cases hw : w ∈ choices
      · simp [hw]
      · have hne : w ≠ v := by rintro rfl; exact hw hmem
        simp [hw, hne]
    · rw [if_neg (not_or.mpr ⟨hblank, hmem⟩), List.filter_cons_of_pos (by simpa using hmem),
        ← List.append_cons, List.filter_filter]
      refine congrArg _ (congrArg _ (List.filter_congr fun w _ => ?_))
      simp [not_or]

/-- Choices without white space are read as the distinct ones that say something. -/
theorem choicesOf_eq_distinctChoices {vs : List String} (h : ∀ v ∈ vs, Trimmed v.toList) :
    FieldSpec.choicesOf (vs.map String.toList) = distinctChoices vs := by
  rw [FieldSpec.choicesOf, foldl_addChoice_eq_distinctChoices h]
  simp

/-! ### Attributes of a field -/

/-- A field with all the attributes that a directive can give it. -/
structure AttributedField where
  id : String
  type : String
  required : Bool
  label : String
  choices : List String

namespace AttributedField

/-- The word that makes a field required. -/
def mark : List Char := "required".toList

/-- The choices as they are written. -/
def choicesText (f : AttributedField) : List Char := Text.join ['|'] (f.choices.map String.toList)

/-- What stands in front of the label. -/
def labelFront (f : AttributedField) : List Char :=
  if f.required then "required label=".toList else "label=".toList

/-- What stands in front of the choices. -/
def choicesFront (f : AttributedField) : List Char :=
  f.labelFront ++ '"' :: (f.label.toList ++ '"' :: " values".toList)

/-- The attributes as a directive has them behind the type. -/
def attributes (f : AttributedField) : List Char := f.choicesFront ++ '=' :: f.choicesText

/-- The type and the attributes, as a directive has them behind the colon. -/
def specText (f : AttributedField) : List Char := f.type.toList ++ ' ' :: f.attributes

/-- The field as a line of a WPT header. -/
def directiveLine (f : AttributedField) : List Char :=
  "@field ".toList ++ (f.id.toList ++ ':' :: ' ' :: f.specText)

/-- The field if every attribute is what is written in its own place. -/
def asWritten (f : AttributedField) : FieldSpec :=
  { id := f.id, type := .ofName f.type, label := f.label, required := f.required
    values := some (firsts f.choices) }

/-- A field whose parts do not hold the characters that end them. -/
structure Writable (f : AttributedField) : Prop where
  id : Filled f.id.toList
  id_chars : ∀ c ∈ f.id.toList, c ≠ ':' ∧ c ≠ '\n'
  type_ne_nil : f.type.toList ≠ []
  type_chars : ∀ c ∈ f.type.toList, Text.isBlank c = false
  label_chars : ∀ c ∈ f.label.toList, c ≠ '"' ∧ c ≠ '\n'
  choices_ne_nil : f.choices ≠ []
  choices_chars : ∀ v ∈ f.choices, ∀ c ∈ v.toList, Text.isBlank c = false ∧ c ≠ '|' ∧ c ≠ '"'

/-- Wherever the label has the mark of choices, white space follows it. -/
def MarksNoChoices (f : AttributedField) : Prop :=
  ∀ before after, f.label.toList = before ++ ("values=".toList ++ after) →
    ∃ c ∈ after.head?, Text.isBlank c = true

variable {f : AttributedField}

/-! ### What is written -/

theorem Writable.not_blank_choicesText (h : f.Writable) :
    ∀ c ∈ f.choicesText, Text.isBlank c = false := by
  intro c hc
  rcases Text.mem_join hc with rfl | ⟨p, hp, hmem⟩
  · decide
  · obtain ⟨v, hv, rfl⟩ := List.mem_map.mp hp
    exact (h.choices_chars v hv c hmem).1

theorem Writable.splitOn_choicesText (h : f.Writable) :
    Text.splitOn '|' f.choicesText = f.choices.map String.toList := by
  refine Text.splitOn_join (by simpa using h.choices_ne_nil) fun p hp hmem => ?_
  obtain ⟨v, hv, rfl⟩ := List.mem_map.mp hp
  exact (h.choices_chars v hv '|' hmem).2.1 rfl

theorem stops_choicesFront (f : AttributedField) :
    f.choicesFront ≠ [] ∧ Stops Text.isBlank f.choicesFront := by
  rw [choicesFront, labelFront]
  cases f.required with
  | true => exact ⟨List.cons_ne_nil _ _, Text.stops_cons.mpr (by decide)⟩
  | false => exact ⟨List.cons_ne_nil _ _, Text.stops_cons.mpr (by decide)⟩

/-- The choices end the attributes, and hold no white space. -/
theorem Writable.trimmed_attributes (h : f.Writable) : Trimmed f.attributes := by
  have hend : ∀ c ∈ '=' :: f.choicesText, Text.isBlank c = false := by
    intro c hc
    rcases List.mem_cons.mp hc with rfl | hc
    · decide
    · exact h.not_blank_choicesText c hc
  refine Text.trimmed_append (stops_choicesFront f).2 (stops_choicesFront f).1 ?_
    (List.cons_ne_nil _ _)
  exact fun c hc => hend c (List.mem_reverse.mp (List.mem_of_mem_head? hc))

theorem Writable.filled_specText (h : f.Writable) : Filled f.specText := by
  have htype : Stops Text.isBlank f.type.toList :=
    fun c hc => h.type_chars c (List.mem_of_mem_head? hc)
  have hne : f.attributes ≠ [] := List.append_ne_nil_of_left_ne_nil (stops_choicesFront f).1 _
  refine ⟨List.append_ne_nil_of_left_ne_nil h.type_ne_nil _, ?_⟩
  rw [specText, List.append_cons]
  refine Text.trimmed_append ?_ (by simp) h.trimmed_attributes.stops_reverse hne
  exact Text.stops_append h.type_ne_nil h.type_chars _

/-- The mark of choices is looked for from every place of the label. -/
theorem marksNoChoices_of_tails
    (h : ∀ u ∈ f.label.toList.tails, ∀ after ∈ Text.after? "values=".toList u,
      after.head?.any Text.isBlank = true) : f.MarksNoChoices := by
  intro before after hlabel
  have htail : "values=".toList ++ after ∈ f.label.toList.tails :=
    (List.mem_tails _ _).mpr ⟨before, hlabel.symm⟩
  exact (Option.any_eq_true _ _).mp (h _ htail after (Text.after?_append _ _))

/-- The text behind the colon is the type and, in front of the attributes, white space. -/
theorem Writable.firstWord_specText (h : f.Writable) :
    Text.firstWord f.specText = f.type.toList ∧
      Text.trim (f.specText.drop f.type.toList.length) = f.attributes := by
  have hspace : Stops (!Text.isBlank ·) (' ' :: f.attributes) := Text.stops_cons.mpr (by decide)
  refine ⟨Text.firstWord_append h.type_ne_nil h.type_chars hspace, ?_⟩
  rw [specText, List.drop_left]
  exact (Text.trim_append_left (by decide : Text.allBlank [' '] = true) _).trans
    h.trimmed_attributes

theorem attributes_eq (f : AttributedField) :
    f.attributes = (if f.required then "required ".toList else []) ++
      ("label=\"".toList ++ (f.label.toList ++
        (['"', ' '] ++ ("values=".toList ++ f.choicesText)))) := by
  rw [attributes, choicesFront, labelFront]
  cases f.required <;> simp only [List.append_assoc, List.cons_append] <;> rfl

/-! ### Each attribute -/

theorem label?_of_head?_ne {s : List Char} (h : s.head? ≠ some 'l') : Wpt.label? s = none := by
  have hafter : Text.after? "label=\"".toList s = none :=
    Text.after?_of_head?_ne (c := 'l') h
  rw [Wpt.label?, hafter, Option.bind_none]

theorem choices?_of_head?_ne {s : List Char} (h : s.head? ≠ some 'v') : Wpt.choices? s = none := by
  have hafter : Text.after? "values=".toList s = none :=
    Text.after?_of_head?_ne (c := 'v') h
  rw [Wpt.choices?, hafter, Option.bind_none]

theorem choices?_append (s : List Char) :
    Wpt.choices? ("values=".toList ++ s) =
      if s.takeWhile (!Text.isBlank ·) = [] then none
      else some (s.takeWhile (!Text.isBlank ·)) := by
  rw [Wpt.choices?, Text.after?_append, Option.bind_some]

/-- The label is found where it is written: in front of it there is no other. -/
theorem Writable.search_label? (h : f.Writable) :
    Text.search Wpt.label? f.attributes = some f.label.toList := by
  have hfront : 'l' ∉ if f.required then "required ".toList else [] := by
    cases f.required <;> decide
  rw [attributes_eq, Text.search_append_of_not_mem (fun _ => label?_of_head?_ne) hfront]
  refine Text.search_of_some ?_
  have hlabel : ∀ c ∈ f.label.toList, decide (c ≠ '"') = true := by
    intro c hc
    simpa using (h.label_chars c hc).1
  have hquote : ∀ s, Stops (· ≠ '"') (['"', ' '] ++ s) := fun s => Text.stops_cons.mpr (by decide)
  rw [Wpt.label?, Text.after?_append, Option.bind_some, if_pos (by simp),
    Text.takeWhile_append_stops (hquote _), List.takeWhile_eq_self_iff.mpr hlabel]

/-- The choices are found where they are written, if the label marks none. -/
theorem Writable.search_choices? (h : f.Writable) (hlabel : f.MarksNoChoices) :
    Text.search Wpt.choices? f.attributes =
      if f.choicesText = [] then none else some f.choicesText := by
  have hfront : 'v' ∉ (if f.required then "required ".toList else []) ++ "label=\"".toList := by
    cases f.required <;> decide
  -- A mark in the label ends before the closing quote, so white space in the label follows it.
  have hinside : ∀ u, u <:+ f.label.toList → u ≠ [] → ∀ s,
      Wpt.choices? (u ++ (['"', ' '] ++ s)) = none := by
    intro u hu _ s
    by_cases hmark : "values=".toList <+: u
    · obtain ⟨after, rfl⟩ := hmark
      obtain ⟨before, hbefore⟩ := hu
      obtain ⟨c, hc, hblank⟩ := hlabel before after hbefore.symm
      obtain ⟨rest, rfl⟩ := List.head?_eq_some_iff.mp hc
      rw [List.append_assoc, choices?_append, if_pos]
      simp [hblank]
    · have hnone : Text.after? "values=".toList (u ++ '"' :: ' ' :: s) = none :=
        Text.after?_eq_none_iff.mpr fun hstarts =>
          hmark (Text.prefix_of_prefix_append_cons (by decide) hstarts)
      rw [List.cons_append, List.cons_append, List.nil_append, Wpt.choices?, hnone,
        Option.bind_none]
  rw [attributes_eq, ← List.append_assoc,
    Text.search_append_of_not_mem (fun _ => choices?_of_head?_ne) hfront,
    Text.search_append_of_none fun u hu hne => hinside u hu hne _,
    Text.search_append_of_not_mem (fun _ => choices?_of_head?_ne) (by decide : 'v' ∉ ['"', ' '])]
  by_cases hnil : f.choicesText = []
  · rw [hnil, if_pos rfl]
    decide
  · have hall : ∀ c ∈ f.choicesText, (!Text.isBlank c) = true := by
      simpa using h.not_blank_choicesText
    rw [if_neg hnil]
    refine Text.search_of_some ?_
    rw [choices?_append, List.takeWhile_eq_self_iff.mpr hall, if_neg hnil]

/-- The word for a required field is found behind the type, in the label or among the choices. -/
theorem hasWord_mark (f : AttributedField) :
    Text.hasWord mark f.attributes = true ↔
      f.required = true ∨ StandsAlone mark f.label.toList ∨
        ∃ v ∈ f.choices, StandsAlone mark v.toList := by
  have hne : mark ≠ [] := by decide
  have hfront : Text.hasWord mark f.labelFront = f.required := by
    rw [labelFront]
    cases f.required <;> decide
  have hname : Text.hasWord mark " values".toList = false := by decide
  rw [attributes, choicesFront, Text.hasWord_append_cons hne (by decide) (by decide),
    Text.hasWord_append_cons hne (by decide) (by decide),
    Text.hasWord_append_cons hne (by decide) (by decide), hfront, hname, choicesText,
    Text.hasWord_join hne (by decide) (by decide)]
  simp only [Bool.or_false, Bool.or_eq_true, List.any_map, List.any_eq_true, Function.comp_apply,
    Text.hasWord_iff hne, or_assoc]

/-- The field of the line. -/
theorem Writable.directive_directiveLine (h : f.Writable) :
    Wpt.directive f.directiveLine = .ok (.field (Wpt.fieldOf f.id.toList f.specText)) :=
  Wpt.directive_of_filled h.id (fun hmem => (h.id_chars ':' hmem).1 rfl) h.filled_specText

theorem Writable.values_fieldOf (h : f.Writable) (hlabel : f.MarksNoChoices) :
    (Wpt.fieldOf f.id.toList f.specText).values =
      if distinctChoices f.choices = [] then none else some (distinctChoices f.choices) := by
  have htrimmed : ∀ v ∈ f.choices, Trimmed v.toList := fun v hv =>
    Text.trimmed_of_no_blank fun c hc => (h.choices_chars v hv c hc).1
  have hread := choicesOf_eq_distinctChoices htrimmed
  rw [← h.splitOn_choicesText] at hread
  rw [Wpt.fieldOf, h.firstWord_specText.1, h.firstWord_specText.2, h.search_choices? hlabel]
  by_cases hnil : f.choicesText = []
  · have hnone : distinctChoices f.choices = [] := by
      rw [← hread, hnil]
      decide
    rw [if_pos hnil, if_pos hnone]
  · rw [if_neg hnil, ← hread]
    rfl

end AttributedField

/-! ### Fields of a header -/

/-- A field is found under its id where no id is repeated. -/
theorem Template.field?_of_mem {t : Template} {f : FieldSpec}
    (hids : (t.fields.map FieldSpec.id).Nodup) (hf : f ∈ t.fields) : t.field? f.id = some f := by
  rw [Template.field?]
  cases hfind : t.fields.find? fun g => g.id == f.id with
  | none =>
    have hno := List.find?_eq_none.mp hfind f hf
    simp at hno
  | some g =>
    have hid : g.id = f.id := by simpa using List.find?_some hfind
    rw [List.inj_on_of_nodup_map hids (List.mem_of_find?_eq_some hfind) hf hid]

/-- What a header line gives as a field is what the template has under its id. -/
theorem Wpt.field?_of_mem_headerLines {text line : List Char} {f : FieldSpec} {t : Template}
    (h : template text = .ok t) (hline : line ∈ headerLines text)
    (hread : directive line = .ok (.field f)) : t.field? f.id = some f := by
  obtain ⟨-, hids, key, -, rfl⟩ := template_eq_ok_iff.mp h
  refine Template.field?_of_mem ?_ ?_
  · rw [templateOf_eq]
    exact hids
  · rw [templateOf_eq]
    exact List.mem_filterMap.mpr ⟨line, hline, by rw [given?, hread]; rfl⟩

/-- A line that gives a field all its attributes is read as a field with the id, the type and the
    label that are written. It is required when the word for that is written as an attribute, and
    also when the word stands alone in the label or in a choice. Its choices are those written,
    without the empty ones and the repeated ones, where the label marks no choices. A template with
    the line in its header has this field under the id. -/
theorem Wpt.directive_attributes (f : AttributedField) (h : f.Writable) :
    ∃ s, directive f.directiveLine = .ok (.field s) ∧
      s.id = f.id ∧ s.type = .ofName f.type ∧ s.label = f.label ∧
      (s.required = true ↔ f.required = true ∨
        StandsAlone AttributedField.mark f.label.toList ∨
          ∃ v ∈ f.choices, StandsAlone AttributedField.mark v.toList) ∧
      (f.MarksNoChoices → s.values =
        if distinctChoices f.choices = [] then none else some (distinctChoices f.choices)) ∧
      ∀ text t, (Template.load .wpt text).outcome = .ok t → f.directiveLine ∈ headerLines text →
        t.field? f.id = some s := by
  have hread := h.directive_directiveLine
  have hid : (fieldOf f.id.toList f.specText).id = f.id := by
    rw [fieldOf_id, String.ofList_toList]
  refine ⟨_, hread, hid, ?_, ?_, ?_, h.values_fieldOf, fun text t ht hline => ?_⟩
  · rw [fieldOf_type, h.firstWord_specText.1, String.ofList_toList]
  · rw [fieldOf_label, h.firstWord_specText.1, h.firstWord_specText.2, h.search_label?,
      Option.getD_some, String.ofList_toList]
  · rw [fieldOf_required, h.firstWord_specText.1, h.firstWord_specText.2]
    exact f.hasWord_mark
  · have htemplate : template text = .ok t := refuse_eq_ok_iff.mp ht
    have hfield := field?_of_mem_headerLines htemplate hline hread
    rwa [hid] at hfield

namespace AttributedField

/-- A field whose label speaks of what is required, and of choices with nothing behind the mark. -/
def specimen : AttributedField where
  id := "note"
  type := "select"
  required := false
  label := "required, see values= below"
  choices := ["b", "", "a", "b"]

/-- A field with such a label and no other sign that it is required. -/
def remark : AttributedField where
  id := "note"
  type := "text"
  required := false
  label := "not required"
  choices := ["yes", "no"]

/-- A field whose label has the mark of choices in front of a text. -/
def hint : AttributedField where
  id := "dept"
  type := "select"
  required := false
  label := "as in values=CS"
  choices := ["CS", "EE"]

theorem writable_specimen : specimen.Writable where
  id := ⟨by decide, by decide⟩
  id_chars := Text.forall_mem_of_all (by decide)
  type_ne_nil := by decide
  type_chars := Text.forall_mem_of_all (by decide)
  label_chars := Text.forall_mem_of_all (by decide)
  choices_ne_nil := by decide
  choices_chars := fun _ hv => Text.forall_mem_of_all (by decide +revert)

end AttributedField

/-- The word in the label makes the field required, and its choices are those that are written. -/
theorem Wpt.directive_attributes_specimen : AttributedField.specimen.Writable ∧
    ∃ s, directive AttributedField.specimen.directiveLine = .ok (.field s) ∧
      s.required = true ∧ s.values = some ["b", "a"] := by
  obtain ⟨s, hread, -, -, -, hrequired, hvalues, -⟩ :=
    directive_attributes AttributedField.specimen AttributedField.writable_specimen
  have hword : StandsAlone AttributedField.mark AttributedField.specimen.label.toList :=
    (Text.hasWord_iff (by decide)).mp (by decide)
  have hmarks : AttributedField.specimen.MarksNoChoices :=
    AttributedField.marksNoChoices_of_tails (by decide)
  exact ⟨AttributedField.writable_specimen, s, hread, hrequired.mpr (.inr (.inl hword)),
    hvalues hmarks⟩

/-- The attributes are not read each from its own place: a word in the label makes a field
    required, and a mark in the label takes the place of the choices. -/
theorem Wpt.directive_not_asWritten :
    (¬∀ f : AttributedField, f.Writable → directive f.directiveLine = .ok (.field f.asWritten)) ∧
    directive AttributedField.remark.directiveLine =
      .ok (.field { AttributedField.remark.asWritten with required := true }) ∧
    directive AttributedField.hint.directiveLine =
      .ok (.field { AttributedField.hint.asWritten with values := some ["CS\""] }) := by
  have hremark : directive AttributedField.remark.directiveLine =
      .ok (.field { AttributedField.remark.asWritten with required := true }) := rfl
  refine ⟨fun hall => ?_, hremark, rfl⟩
  have hread := hall AttributedField.remark
    ⟨⟨by decide, by decide⟩, Text.forall_mem_of_all (by decide), by decide,
      Text.forall_mem_of_all (by decide), Text.forall_mem_of_all (by decide), by decide,
      fun _ hv => Text.forall_mem_of_all (by decide +revert)⟩
  rw [hremark] at hread
  have hrequired := congrArg FieldSpec.required (Directive.field.inj (Except.ok.inj hread))
  cases hrequired

end Issuance

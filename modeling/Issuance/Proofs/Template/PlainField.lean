import Issuance.Proofs.Template.Wpml
import Issuance.Proofs.Template.Wpt

/-! # A field in three notations

    A field with an id, a type and perhaps the mark of a required one can be written as a line of a
    WPML section, as a directive of a WPT header and as a member of a WPM object. Each notation has
    characters of its own to part the id from the type and to say that the field is required; as
    long as the id and the type hold none of them, all three are read as the same field, labelled
    with its id. -/

namespace Issuance

open Text (Trimmed Filled Stops EndsLine lineOf)

/-- A field that every format has a notation for. -/
structure PlainField where
  id : String
  type : String
  required : Bool

namespace PlainField

/-- The field of a template. -/
def spec (f : PlainField) : FieldSpec :=
  { id := f.id, type := .ofName f.type, label := f.id, required := f.required }

/-- The field as a line among the fields of a WPML text. -/
def sectionLine (f : PlainField) : List Char :=
  f.id.toList ++ ':' :: (f.type.toList ++ ':' ::
    (f.id.toList ++ if f.required then ":required".toList else []))

/-- The type and the mark of a required field, as a directive has them behind the colon. -/
def specText (f : PlainField) : List Char :=
  f.type.toList ++ if f.required then " required".toList else []

/-- What a field directive starts with. -/
def fieldDirective : List Char := "@field ".toList

/-- The field as a line of a WPT header. -/
def directiveLine (f : PlainField) : List Char :=
  fieldDirective ++ (f.id.toList ++ ':' :: ' ' :: f.specText)

/-- The type and the mark of a required field, as an object has them. -/
def typeText (f : PlainField) : List Char := f.type.toList ++ if f.required then ['!'] else []

/-- The field as a member of the fields of a WPM object. -/
def objectMember (f : PlainField) : String × Json := (f.id, Json.ofText f.typeText)

/-- A field that can be written in every notation: an id that none of them would cut, trim or take
    for a marker, and a type of one word. -/
structure Writable (f : PlainField) : Prop where
  id_ne_nil : f.id.toList ≠ []
  id_trimmed : Trimmed f.id.toList
  id_chars : ∀ c ∈ f.id.toList, c ≠ ':' ∧ c ≠ ',' ∧ c ≠ '\r' ∧ c ≠ '\n'
  id_no_marker : ¬Wpml.fieldsMarker <+: f.id.toList ∧ ¬Wpml.bodyMarker <+: f.id.toList
  type_ne_nil : f.type.toList ≠ []
  type_chars : ∀ c ∈ f.type.toList, Text.isBlank c = false ∧ c ≠ ':' ∧ c ≠ ',' ∧ c ≠ '!'

variable {f : PlainField}

/-! ### What is written -/

theorem Writable.not_blank_id (h : f.Writable) : Text.allBlank f.id.toList = false := by
  rw [Bool.eq_false_iff]
  intro hblank
  exact h.id_ne_nil (h.id_trimmed.symm.trans (Text.trim_eq_nil_iff.mpr hblank))

theorem Writable.type_not_blank (h : f.Writable) : ∀ c ∈ f.type.toList, Text.isBlank c = false :=
  fun c hc => (h.type_chars c hc).1

theorem Writable.colon_not_mem_id (h : f.Writable) : ':' ∉ f.id.toList :=
  fun hmem => (h.id_chars ':' hmem).1 rfl

/-- A line of either notation is written with the characters of the id, those of the type, and those
    of its own. -/
theorem mem_sectionLine {c : Char} (h : c ∈ f.sectionLine) :
    c ∈ f.id.toList ∨ c ∈ f.type.toList ∨ c ∈ ":required".toList := by
  have hcolon : ':' ∈ ":required".toList := by decide
  simp only [sectionLine, List.mem_append, List.mem_cons] at h
  rcases h with h | rfl | h | rfl | h | h
  · exact .inl h
  · exact .inr (.inr hcolon)
  · exact .inr (.inl h)
  · exact .inr (.inr hcolon)
  · exact .inl h
  · split_ifs at h
    · exact .inr (.inr h)
    · cases h

theorem mem_directiveLine {c : Char} (h : c ∈ f.directiveLine) :
    c ∈ f.id.toList ∨ c ∈ f.type.toList ∨ c ∈ fieldDirective ++ ':' :: " required".toList := by
  rw [directiveLine] at h
  rcases List.mem_append.mp h with h | h
  · exact .inr (.inr (List.mem_append_left _ h))
  rcases List.mem_append.mp h with h | h
  · exact .inl h
  rcases List.mem_cons.mp h with rfl | h
  · exact .inr (.inr (List.mem_append_right _ List.mem_cons_self))
  rcases List.mem_cons.mp h with rfl | h
  · exact .inr (.inr (List.mem_append_right _ (by decide)))
  rw [specText] at h
  rcases List.mem_append.mp h with h | h
  · exact .inr (.inl h)
  · split_ifs at h
    · exact .inr (.inr (List.mem_append_right _ (List.mem_cons_of_mem _ h)))
    · cases h

/-- Line ends are written with white space that no notation holds. -/
theorem Writable.isLine (h : f.Writable) {line : List Char}
    (hline : ∀ c ∈ line, c ∈ f.id.toList ∨ c ∈ f.type.toList ∨ c ∉ ['\r', '\n']) :
    Text.IsLine line := by
  have hends : ∀ c ∈ line, c ≠ '\r' ∧ c ≠ '\n' := by
    intro c hc
    rcases hline c hc with hc | hc | hc
    · exact (h.id_chars c hc).2.2
    · have hblank := h.type_not_blank c hc
      constructor <;> rintro rfl <;> exact absurd hblank (by decide)
    · simpa using hc
  refine ⟨fun hmem => (hends '\n' hmem).2 rfl, fun hlast => ?_⟩
  exact (hends '\r' (List.mem_of_getLast? hlast)).1 rfl

/-! ### The WPML notation -/

theorem Writable.isLine_sectionLine (h : f.Writable) : Text.IsLine f.sectionLine := by
  have hown : ∀ c ∈ ":required".toList, c ∉ ['\r', '\n'] :=
    Text.forall_mem_of_all (by decide)
  exact h.isLine fun c hc => (mem_sectionLine hc).imp_right (.imp_right (hown c))

theorem Writable.not_blank_sectionLine (h : f.Writable) : Text.allBlank f.sectionLine = false := by
  rw [sectionLine, Text.allBlank_append, h.not_blank_id, Bool.false_and]

theorem Writable.opens?_sectionLine (h : f.Writable) : Wpml.opens? f.sectionLine = none := by
  refine Wpml.opens?_eq_none_iff.mpr ⟨fun hmarker => h.id_no_marker.1 ?_,
    fun hmarker => h.id_no_marker.2 ?_⟩
  · exact Text.prefix_of_prefix_append_cons (by decide) hmarker
  · exact Text.prefix_of_prefix_append_cons (by decide) hmarker

theorem Writable.field?_sectionLine (h : f.Writable) :
    Wpml.field? f.sectionLine = some f.spec := by
  have hcomma : ',' ∉ f.sectionLine := by
    intro hmem
    rcases mem_sectionLine hmem with hmem | hmem | hmem
    · exact (h.id_chars ',' hmem).2.1 rfl
    · exact (h.type_chars ',' hmem).2.2.1 rfl
    · exact absurd hmem (by decide)
  have htype : ':' ∉ f.type.toList := fun hmem => (h.type_chars ':' hmem).2.1 rfl
  have hid : Text.trim f.id.toList = f.id.toList := h.id_trimmed
  have htrim : Text.trim f.type.toList = f.type.toList := Text.trimmed_of_no_blank h.type_not_blank
  rw [Wpml.field?, Text.splitOn_of_not_mem hcomma, sectionLine]
  dsimp only
  rw [Text.splitOn_append_cons _ h.colon_not_mem_id, Text.splitOn_append_cons _ htype]
  cases hrequired : f.required with
  | true =>
    have hlabel : f.id.toList ++ ":required".toList = f.id.toList ++ ':' :: "required".toList := rfl
    have hword : Text.splitOn ':' "required".toList = ["required".toList] := by decide
    have hsays : Wpml.saysRequired "required".toList = true := by decide
    rw [if_pos rfl, hlabel, Text.splitOn_append_cons _ h.colon_not_mem_id, hword]
    simp only [h.not_blank_id, hid, htrim, hsays, spec, hrequired, List.head?_cons, Option.any_some,
      List.foldl_nil, String.ofList_toList, Bool.false_eq_true, if_false]
  | false =>
    rw [if_neg (by decide), List.append_nil, Text.splitOn_of_not_mem h.colon_not_mem_id]
    simp only [h.not_blank_id, hid, htrim, spec, hrequired, List.head?_nil, Option.any_none,
      List.foldl_nil, String.ofList_toList, Bool.false_eq_true, if_false]

/-! ### The WPT notation -/

theorem Writable.isLine_directiveLine (h : f.Writable) : Text.IsLine f.directiveLine := by
  have hown : ∀ c ∈ fieldDirective ++ ':' :: " required".toList, c ∉ ['\r', '\n'] :=
    Text.forall_mem_of_all (by decide)
  exact h.isLine fun c hc => (mem_directiveLine hc).imp_right (.imp_right (hown c))

/-- What stands behind the colon is trimmed. -/
theorem Writable.trimmed_specText (h : f.Writable) : Trimmed f.specText := by
  have htype : Stops Text.isBlank f.type.toList :=
    fun c hc => h.type_not_blank c (List.mem_of_mem_head? hc)
  rw [specText]
  cases f.required with
  | true =>
    exact Text.trimmed_append htype h.type_ne_nil (Text.stops_cons.mpr (by decide)) (by decide)
  | false =>
    rw [if_neg (by decide), List.append_nil]
    exact Text.trimmed_of_no_blank h.type_not_blank

theorem Writable.specText_ne_nil (h : f.Writable) : f.specText ≠ [] :=
  List.append_ne_nil_of_left_ne_nil h.type_ne_nil _

theorem directiveLine_eq : f.directiveLine =
    '@' :: ("field ".toList ++ (f.id.toList ++ [':', ' '])) ++ f.specText := by
  have hmark : fieldDirective = '@' :: "field ".toList := rfl
  rw [directiveLine, hmark, List.cons_append, List.cons_append, List.append_assoc,
    List.append_assoc]
  rfl

theorem Writable.trimmed_directiveLine (h : f.Writable) : Trimmed f.directiveLine := by
  rw [directiveLine_eq]
  exact Text.trimmed_append (Text.stops_cons.mpr (by decide)) (List.cons_ne_nil _ _)
    h.trimmed_specText.stops_reverse h.specText_ne_nil

theorem Writable.fieldOf_specText (h : f.Writable) :
    Wpt.fieldOf f.id.toList f.specText = f.spec := by
  have hstop : Stops (!Text.isBlank ·) (if f.required then " required".toList else []) := by
    cases f.required with
    | true => exact Text.stops_cons.mpr (by decide)
    | false => exact Text.stops_nil
  have hword : Text.firstWord f.specText = f.type.toList :=
    Text.firstWord_append h.type_ne_nil h.type_not_blank hstop
  rw [Wpt.fieldOf, hword, specText, List.drop_left]
  cases hrequired : f.required with
  | true =>
    have htrim : Text.trim " required".toList = "required".toList := by decide
    have hlabel : Text.search Wpt.label? "required".toList = none := by decide
    have hchoices : Text.search Wpt.choices? "required".toList = none := by decide
    have hmark : Text.hasWord "required".toList "required".toList = true := by decide
    simp only [if_true, htrim, hlabel, hchoices, hmark, Option.getD_none, String.ofList_toList,
      spec, hrequired]
  | false =>
    have htrim : Text.trim [] = [] := rfl
    have hlabel : Text.search Wpt.label? [] = none := by decide
    have hchoices : Text.search Wpt.choices? [] = none := by decide
    have hmark : Text.hasWord "required".toList [] = false := rfl
    simp only [Bool.false_eq_true, if_false, htrim, hlabel, hchoices, hmark, Option.getD_none,
      String.ofList_toList, spec, hrequired]

theorem Writable.directive_directiveLine (h : f.Writable) :
    Wpt.directive f.directiveLine = .ok (.field f.spec) := by
  have hid : Filled f.id.toList := ⟨h.id_ne_nil, h.id_trimmed⟩
  have hspec : Filled f.specText := ⟨h.specText_ne_nil, h.trimmed_specText⟩
  rw [← h.fieldOf_specText]
  exact Wpt.directive_of_filled hid h.colon_not_mem_id hspec

/-! ### The WPM notation -/

theorem Writable.trim_typeText (h : f.Writable) : Text.trim f.typeText = f.typeText := by
  refine Text.trimmed_of_no_blank fun c hc => ?_
  rcases List.mem_append.mp hc with hc | hc
  · exact h.type_not_blank c hc
  · split_ifs at hc
    · rw [List.mem_singleton.mp hc]
      decide
    · cases hc

/-- The mark is the last character, if there is one; a type holds none. -/
theorem Writable.getLast?_typeText (h : f.Writable) :
    f.typeText.getLast? = some '!' ↔ f.required = true := by
  rw [typeText]
  cases f.required with
  | true => simp
  | false =>
    rw [if_neg (by decide), List.append_nil]
    refine iff_of_false (fun hlast => ?_) (by decide)
    exact (h.type_chars '!' (List.mem_of_getLast? hlast)).2.2.2 rfl

theorem Writable.typeName_typeText (h : f.Writable) :
    TypeString.typeName (String.ofList f.typeText) = f.type.toList := by
  have htrim : Text.trim f.type.toList = f.type.toList := Text.trimmed_of_no_blank h.type_not_blank
  have hdrop : Text.dropFinal '!' f.typeText = f.type.toList := by
    rw [Text.dropFinal]
    cases hrequired : f.required with
    | true =>
      rw [if_pos (h.getLast?_typeText.mpr hrequired), typeText, hrequired, if_pos rfl,
        List.dropLast_concat]
    | false =>
      have hlast : f.typeText.getLast? ≠ some '!' := by
        rw [Ne, h.getLast?_typeText, hrequired]
        decide
      rw [if_neg hlast, typeText, hrequired, if_neg (by decide), List.append_nil]
  rw [TypeString.typeName, String.toList_ofList, h.trim_typeText, hdrop, htrim]

theorem Writable.field_objectMember (h : f.Writable) : Wpm.field f.objectMember = f.spec := by
  have hstring : Wpm.typeString f.objectMember.2 = String.ofList f.typeText := by
    rw [objectMember, Json.ofText, Wpm.typeString, String.toList_ofList, h.trim_typeText]
  have htype : TypeString.fieldType (String.ofList f.typeText) = .ofName f.type := by
    rw [TypeString.fieldType, h.typeName_typeText]
    split
    · next hnil => exact absurd hnil h.type_ne_nil
    · rw [String.ofList_toList]
  have hmark : TypeString.isRequired (String.ofList f.typeText) = f.required := by
    rw [TypeString.isRequired, String.toList_ofList, Bool.eq_iff_iff, beq_iff_eq,
      h.getLast?_typeText]
  simp only [Wpm.field, hstring, htype, hmark]
  rfl

/-! ### Lists of fields -/

/-- The fields as lines of a WPML text. -/
def sectionText (fs : List PlainField) : List Char := (fs.map sectionLine).flatMap lineOf

/-- The fields as lines of a WPT header. -/
def directiveText (fs : List PlainField) : List Char := (fs.map directiveLine).flatMap lineOf

variable {fs : List PlainField}

theorem lines_sectionText (h : ∀ f ∈ fs, f.Writable) :
    Text.lines (sectionText fs) = fs.map sectionLine :=
  Text.lines_flatMap_lineOf <| List.forall_mem_map.mpr fun f hf => (h f hf).isLine_sectionLine

theorem lines_directiveText (h : ∀ f ∈ fs, f.Writable) :
    Text.lines (directiveText fs) = fs.map directiveLine :=
  Text.lines_flatMap_lineOf <| List.forall_mem_map.mpr fun f hf => (h f hf).isLine_directiveLine

theorem filterMap_field?_sectionLine (h : ∀ f ∈ fs, f.Writable) :
    (fs.map sectionLine).filterMap Wpml.field? = fs.map spec := by
  rw [List.filterMap_map, ← List.filterMap_eq_map]
  exact List.filterMap_congr fun f hf => (h f hf).field?_sectionLine

theorem map_id_spec (fs : List PlainField) :
    (fs.map spec).map FieldSpec.id = fs.map PlainField.id := by
  rw [List.map_map]
  rfl

end PlainField

end Issuance

import Issuance.Proofs.Template.Invariant
import Issuance.Proofs.Template.Wpml

/-! # Writing WPML

    What a WPML text says can be written down again: an entry for the key, the name and the context,
    a line for each field, and the body. The parts of a field stand between colons and its choices
    behind a comma, so none of them may hold a character that parts the others. What is written this
    way is read back as it was, whether the last line of the text ends or not. -/

namespace Issuance.Wpml

open Text (Filled Trimmed IsLine lineOf)

/-! ### Fields -/

/-- A field as it is written, with its type as a text. -/
structure WrittenField where
  id : String
  type : String
  label : String
  required : Bool
  values : Option (List String)

namespace WrittenField

/-- The field of a template. -/
def spec (f : WrittenField) : FieldSpec :=
  { id := f.id, type := .ofName f.type, label := f.label, required := f.required,
    values := f.values }

/-- The mark of a required field. -/
def mark (f : WrittenField) : List Char := if f.required then ":required".toList else []

/-- The parts between colons. -/
def primary (f : WrittenField) : List Char :=
  f.id.toList ++ ':' :: (f.type.toList ++ ':' :: (f.label.toList ++ f.mark))

/-- What the modifier with choices starts with. -/
def choiceMark : List Char := "values=".toList

/-- The modifier with choices. -/
def choiceText (vs : List String) : List Char :=
  choiceMark ++ Text.join ['|'] (vs.map String.toList)

/-- The field as a line `id:type:label:required,values=a|b`. -/
def line (f : WrittenField) : List Char :=
  f.primary ++ match f.values with
    | none => []
    | some vs => ',' :: choiceText vs

/-- A field that can be written on a line: its parts are trimmed, they hold no separator and no line
    feed, and the id does not look like a marker. -/
structure Writable (f : WrittenField) : Prop where
  id : Filled f.id.toList
  type : Trimmed f.type.toList
  label : Trimmed f.label.toList
  chars : ∀ part ∈ [f.id, f.type, f.label], ∀ c ∈ part.toList, c ≠ ',' ∧ c ≠ ':' ∧ c ≠ '\n'
  no_marker : ¬fieldsMarker <+: f.id.toList ∧ ¬bodyMarker <+: f.id.toList
  choices : f.spec.HasChoices
  choice_chars : ∀ vs, f.values = some vs → ∀ v ∈ vs, ∀ c ∈ v.toList,
    c ≠ ',' ∧ c ≠ '|' ∧ c ≠ '=' ∧ c ≠ '\n'

variable {f : WrittenField} {vs : List String} {c : Char}

/-! What is written -/

theorem mem_primary (h : c ∈ f.primary) :
    (∃ part ∈ [f.id, f.type, f.label], c ∈ part.toList) ∨ c ∈ ":required".toList := by
  have hcolon : ':' ∈ ":required".toList := by decide
  simp only [primary, List.mem_append, List.mem_cons] at h
  rcases h with h | rfl | h | rfl | h | h
  · exact .inl ⟨f.id, by simp, h⟩
  · exact .inr hcolon
  · exact .inl ⟨f.type, by simp, h⟩
  · exact .inr hcolon
  · exact .inl ⟨f.label, by simp, h⟩
  · rw [mark] at h
    split_ifs at h
    · exact .inr h
    · cases h

theorem Writable.comma_not_mem_primary (h : f.Writable) : ',' ∉ f.primary := by
  intro hmem
  rcases mem_primary hmem with ⟨part, hpart, hc⟩ | hmem
  · exact (h.chars part hpart ',' hc).1 rfl
  · exact absurd hmem (by decide)

theorem Writable.colon_not_mem (h : f.Writable) {part : String}
    (hpart : part ∈ [f.id, f.type, f.label]) : ':' ∉ part.toList :=
  fun hmem => (h.chars part hpart ':' hmem).2.1 rfl

/-- A character that no choice holds and that is none of the modifier's own. -/
theorem not_mem_choiceText (hown : c ∉ choiceMark ++ ['|']) (h : ∀ v ∈ vs, c ∉ v.toList) :
    c ∉ choiceText vs := by
  intro hmem
  rcases List.mem_append.mp hmem with hmem | hmem
  · exact hown (List.mem_append_left ['|'] hmem)
  · rcases Text.mem_join hmem with rfl | ⟨p, hp, hc⟩
    · exact hown (by decide)
    · obtain ⟨v, hv, rfl⟩ := List.mem_map.mp hp
      exact h v hv hc

theorem Writable.isLine_of_mem (h : f.Writable) {part : String}
    (hpart : part ∈ [f.id, f.type, f.label]) : IsLine part.toList := by
  refine Text.isLine_of_trimmed ?_ fun hmem => (h.chars part hpart '\n' hmem).2.2 rfl
  simp only [List.mem_cons, List.not_mem_nil, or_false] at hpart
  rcases hpart with rfl | rfl | rfl
  · exact h.id.2
  · exact h.type
  · exact h.label

theorem Writable.isLine_line (h : f.Writable) : IsLine f.line := by
  have hcolon : IsLine [':'] := ⟨by decide, by decide⟩
  have hmark : IsLine f.mark := by
    rw [mark]
    split
    · exact ⟨by decide, by decide⟩
    · exact ⟨by decide, by decide⟩
  have hprimary : IsLine f.primary :=
    (h.isLine_of_mem (by simp)).append <| hcolon.append <| (h.isLine_of_mem (by simp)).append <|
      hcolon.append <| (h.isLine_of_mem (by simp)).append hmark
  refine hprimary.append ?_
  split
  · exact ⟨by decide, by decide⟩
  · next vs hvalues =>
    have hown : IsLine (',' :: choiceMark) := ⟨by decide, by decide⟩
    refine hown.append (Text.isLine_join ⟨by decide, by decide⟩ ?_)
    refine List.forall_mem_map.mpr fun v hv => ?_
    have hfilled := (h.choices vs hvalues).2.filled v hv
    exact Text.isLine_of_trimmed hfilled.2 fun hmem =>
      (h.choice_chars vs hvalues v hv '\n' hmem).2.2.2 rfl

theorem Writable.stands_line (h : f.Writable) : Stands f.line := by
  constructor
  · rw [line, primary, Text.allBlank_append, Text.allBlank_append, h.id.not_blank]
    rfl
  · rw [line, primary, List.append_assoc, List.cons_append]
    refine opens?_eq_none_iff.mpr ⟨fun hmarker => h.no_marker.1 ?_,
      fun hmarker => h.no_marker.2 ?_⟩
    · exact Text.prefix_of_prefix_append_cons (by decide) hmarker
    · exact Text.prefix_of_prefix_append_cons (by decide) hmarker

/-! What is read -/

theorem Writable.splitOn_line (h : f.Writable) :
    Text.splitOn ',' f.line = f.primary :: (f.values.map choiceText).toList := by
  rw [line]
  cases hvalues : f.values with
  | none => exact (List.append_nil f.primary).symm ▸ Text.splitOn_of_not_mem h.comma_not_mem_primary
  | some vs =>
    have hcomma : ',' ∉ choiceText vs := not_mem_choiceText (by decide) fun v hv hmem =>
      (h.choice_chars vs hvalues v hv ',' hmem).1 rfl
    dsimp only
    rw [Text.splitOn_append_cons _ h.comma_not_mem_primary, Text.splitOn_of_not_mem hcomma]
    rfl

theorem Writable.splitOn_primary (h : f.Writable) :
    Text.splitOn ':' f.primary = f.id.toList :: f.type.toList :: f.label.toList ::
      if f.required then ["required".toList] else [] := by
  have hlabel : ':' ∉ f.label.toList := h.colon_not_mem (by simp)
  rw [primary, Text.splitOn_append_cons _ (h.colon_not_mem (by simp)),
    Text.splitOn_append_cons _ (h.colon_not_mem (by simp)), mark]
  split
  · have hword : ":required".toList = ':' :: "required".toList := rfl
    have hcolon : ':' ∉ "required".toList := by decide
    rw [hword, Text.splitOn_append_cons _ hlabel, Text.splitOn_of_not_mem hcolon]
  · rw [List.append_nil, Text.splitOn_of_not_mem hlabel]

/-- The choices of a field are read as they are. -/
theorem Writable.modify_choiceText (h : f.Writable) (hvalues : f.values = some vs) (g : FieldSpec) :
    modify g (choiceText vs) = { g with values := some vs } := by
  obtain ⟨hne, hlisted⟩ := h.choices vs hvalues
  have hbar : ∀ p ∈ vs.map String.toList, '|' ∉ p := List.forall_mem_map.mpr fun v hv hmem =>
    (h.choice_chars vs hvalues v hv '|' hmem).2.1 rfl
  have hequals : '=' ∉ Text.join ['|'] (vs.map String.toList) := by
    intro hmem
    rcases Text.mem_join hmem with hmem | ⟨p, hp, hc⟩
    · exact absurd hmem (by decide)
    · obtain ⟨v, hv, rfl⟩ := List.mem_map.mp hp
      exact (h.choice_chars vs hvalues v hv '=' hc).2.2.1 rfl
  have hsplit : Text.splitOn '=' (choiceText vs) =
      ["values".toList, Text.join ['|'] (vs.map String.toList)] := by
    have hname : choiceMark = "values".toList ++ ['='] := by decide
    have hword : '=' ∉ "values".toList := by decide
    rw [choiceText, hname, List.append_assoc, List.singleton_append,
      Text.splitOn_append_cons _ hword, Text.splitOn_of_not_mem hequals]
  have htrim : Text.trim "values".toList = "values".toList := by decide
  rw [modify, hsplit]
  dsimp only
  rw [if_pos htrim, Text.splitOn_join (by simpa using hne) hbar, FieldSpec.withValues,
    hlisted.choicesOf_eq]
  simp only [if_neg hne]

theorem Writable.field?_line (h : f.Writable) : field? f.line = some f.spec := by
  have hid : Text.trim f.id.toList = f.id.toList := h.id.2
  have htype : Text.trim f.type.toList = f.type.toList := h.type
  have hlabel : Text.trim f.label.toList = f.label.toList := h.label
  have hmark : (if f.required then ["required".toList] else []).head?.any saysRequired =
      f.required := by
    cases f.required with
    | true => decide
    | false => rfl
  rw [field?, h.splitOn_line]
  dsimp only
  rw [h.splitOn_primary]
  dsimp only
  rw [if_neg (by simp [h.id.not_blank]), hid, htype, hlabel, hmark, String.ofList_toList,
    String.ofList_toList, String.ofList_toList, spec]
  cases hvalues : f.values with
  | none => rfl
  | some vs =>
    rw [Option.map_some, Option.toList_some, List.foldl_cons, List.foldl_nil,
      h.modify_choiceText hvalues]

end WrittenField

/-! ### Whole texts -/

/-- What a WPML text is written from. -/
structure Document where
  key : String
  name : String
  context : Option String
  fields : List WrittenField
  body : String

/-- A value of the header as a line. -/
def entryLine (name value : String) : List Char :=
  '@' :: (name.toList ++ ':' :: (' ' :: value.toList))

namespace Document

/-- What the header gives to each name. -/
def entries (d : Document) : List (String × String) :=
  [("key", d.key), ("name", d.name)] ++ (d.context.map ("context", ·)).toList

/-- The lines of the three parts. -/
def linesOf (d : Document) : Part → List (List Char)
  | .header => d.entries.map fun e => entryLine e.1 e.2
  | .fields => d.fields.map WrittenField.line
  | .body => Text.lines d.body.toList

/-- The lines before the body, with the markers. -/
def frontLines (d : Document) : List (List Char) :=
  d.linesOf .header ++ fieldsMarker :: (d.linesOf .fields ++ [bodyMarker])

/-- The text; no line feed follows the body. -/
def text (d : Document) : List Char := d.frontLines.flatMap lineOf ++ d.body.toList

/-- The template that the text describes. -/
def template (d : Document) : Template :=
  .ofParts d.key d.name d.context (d.fields.map WrittenField.spec) (.text d.body)

/-- A document that can be written: the values of the header say something and are no longer than a
    line, each field can be written and has an id of its own, and the body has no line that would be
    passed over or open a section. -/
structure Writable (d : Document) : Prop where
  values : ∀ v ∈ d.key :: d.name :: d.context.toList, Filled v.toList ∧ '\n' ∉ v.toList
  fields : ∀ f ∈ d.fields, f.Writable
  ids : (d.fields.map WrittenField.id).Nodup
  body : Filled d.body.toList
  no_return : '\r' ∉ d.body.toList
  body_lines : ∀ line ∈ Text.lines d.body.toList,
    Text.allBlank line = false ∧ ¬fieldsMarker <+: line ∧ ¬bodyMarker <+: line

variable {d : Document} {e : String × String}

/-! The header -/

theorem Writable.values_of_mem (h : d.Writable) (he : e ∈ d.entries) :
    Filled e.2.toList ∧ '\n' ∉ e.2.toList := by
  refine h.values e.2 ?_
  simp only [entries, List.cons_append, List.nil_append, List.mem_cons, Option.mem_toList,
    Option.map_eq_some_iff] at he
  rcases he with rfl | rfl | ⟨c, hc, rfl⟩
  · simp
  · simp
  · simp [hc]

/-- The names are written and read as they are. -/
theorem name_of_mem (he : e ∈ d.entries) :
    Filled e.1.toList ∧ ':' ∉ e.1.toList ∧ IsLine e.1.toList := by
  have hname : e.1 ∈ ["key", "name", "context"] := by
    simp only [entries, List.cons_append, List.nil_append, List.mem_cons, Option.mem_toList,
      Option.map_eq_some_iff] at he
    rcases he with rfl | rfl | ⟨c, -, rfl⟩ <;> simp
  have hall : ∀ name ∈ ["key", "name", "context"],
      (name.toList ≠ [] ∧ Trimmed name.toList) ∧ ':' ∉ name.toList ∧
        '\n' ∉ name.toList ∧ name.toList.getLast? ≠ some '\r' := by decide
  exact hall e.1 hname

theorem Writable.readEntry_entryLine (h : d.Writable) (he : e ∈ d.entries) :
    readEntry (entryLine e.1 e.2) = some e := by
  obtain ⟨hname, hcolon, -⟩ := name_of_mem he
  obtain ⟨hvalue, -⟩ := h.values_of_mem he
  have hn : Text.trim e.1.toList = e.1.toList := hname.2
  have hv : Text.trim (' ' :: e.2.toList) = e.2.toList :=
    (Text.trim_append_left (w := [' ']) (by decide) _).trans hvalue.2
  have hblank : Text.allBlank (' ' :: e.2.toList) = false := by
    rw [Text.allBlank_cons, hvalue.not_blank, Bool.and_false]
  refine readEntry_eq_some_iff.mpr ⟨_, _, rfl, hcolon, hname.not_blank, hblank, ?_⟩
  rw [hn, hv, String.ofList_toList, String.ofList_toList]

theorem Writable.isLine_entryLine (h : d.Writable) (he : e ∈ d.entries) :
    IsLine (entryLine e.1 e.2) := by
  obtain ⟨hvalue, hnewline⟩ := h.values_of_mem he
  have hat : IsLine ['@'] := ⟨by decide, by decide⟩
  have hcolon : IsLine [':', ' '] := ⟨by decide, by decide⟩
  have hline := Text.isLine_of_trimmed hvalue.2 hnewline
  exact hat.append ((name_of_mem he).2.2.append (hcolon.append hline))

theorem stands_entryLine (name value : String) : Stands (entryLine name value) := by
  have hat : Text.isBlank '@' = false := by decide
  have hfields : fieldsMarker = '[' :: "fields]".toList := rfl
  have hbody : bodyMarker = '[' :: "body]".toList := rfl
  constructor
  · rw [entryLine, Text.allBlank_cons, hat, Bool.false_and]
  · rw [opens?_eq_none_iff, entryLine, hfields, hbody, List.cons_prefix_cons, List.cons_prefix_cons]
    exact ⟨fun h => absurd h.1 (by decide), fun h => absurd h.1 (by decide)⟩

/-! The lines of the text -/

theorem Writable.stands_of_mem (h : d.Writable) (part : Part) :
    ∀ line ∈ d.linesOf part, Stands line := by
  intro line hline
  cases part with
  | header =>
    obtain ⟨e, -, rfl⟩ := List.mem_map.mp hline
    exact stands_entryLine e.1 e.2
  | fields =>
    obtain ⟨f, hf, rfl⟩ := List.mem_map.mp hline
    exact (h.fields f hf).stands_line
  | body =>
    obtain ⟨hblank, hmarkers⟩ := h.body_lines line hline
    exact ⟨hblank, opens?_eq_none_iff.mpr hmarkers⟩

theorem Writable.lines_frontLines (h : d.Writable) :
    Text.lines (d.frontLines.flatMap lineOf) = d.frontLines := by
  refine Text.lines_flatMap_lineOf fun line hline => ?_
  simp only [frontLines, linesOf, List.mem_append, List.mem_cons, List.mem_map, List.not_mem_nil,
    or_false] at hline
  rcases hline with ⟨e, he, rfl⟩ | rfl | ⟨f, hf, rfl⟩ | rfl
  · exact h.isLine_entryLine he
  · exact ⟨by decide, by decide⟩
  · exact (h.fields f hf).isLine_line
  · exact ⟨by decide, by decide⟩

theorem Writable.lines_text (h : d.Writable) :
    Text.lines d.text = d.frontLines ++ d.linesOf .body := by
  rw [text, Text.lines_append (Text.endsLine_flatMap_lineOf _), h.lines_frontLines, linesOf]

/-- Each part of the text has the lines that were written for it. -/
theorem Writable.linesIn_text (h : d.Writable) (part : Part) :
    linesIn part d.text = d.linesOf part := by
  have hfields : opens? fieldsMarker = some .fields := by decide
  have hbody : opens? bodyMarker = some .body := by decide
  rw [linesIn_eq_sift, h.lines_text, frontLines, List.append_assoc, List.cons_append,
    List.append_assoc, List.singleton_append, sift_append, sift_cons, hfields, sift_append,
    sift_cons, hbody]
  simp only [sift_of_stands _ _ (h.stands_of_mem _), openBehind_of_stands _ (h.stands_of_mem _)]
  cases part <;> simp

theorem Writable.newline_not_last (h : d.Writable) : d.body.toList.getLast? ≠ some '\n' := by
  intro hlast
  rw [List.getLast?_eq_head?_reverse] at hlast
  exact absurd (h.body.2.stops_reverse '\n' hlast) (by decide)

/-- A line feed behind the body makes no difference. -/
theorem Writable.lines_text_concat (h : d.Writable) :
    Text.lines (d.text ++ ['\n']) = Text.lines d.text := by
  rw [text, List.append_assoc, Text.lines_append (Text.endsLine_flatMap_lineOf _),
    Text.lines_append (Text.endsLine_flatMap_lineOf _),
    Text.lines_concat h.body.1 h.no_return h.newline_not_last]

/-! What the lines give -/

theorem Writable.entries_header (h : d.Writable) :
    (linesIn .header d.text).filterMap readEntry = d.entries := by
  rw [h.linesIn_text, linesOf, List.filterMap_map]
  conv_rhs => rw [← List.filterMap_some (l := d.entries)]
  exact List.filterMap_congr fun e he => h.readEntry_entryLine he

theorem Writable.fieldsOf_text (h : d.Writable) :
    fieldsOf d.text = d.fields.map WrittenField.spec := by
  have hread : (d.fields.map WrittenField.line).filterMap field? =
      d.fields.map WrittenField.spec := by
    rw [List.filterMap_map, ← List.filterMap_eq_map]
    exact List.filterMap_congr fun f hf => (h.fields f hf).field?_line
  have hids : ((d.fields.map WrittenField.spec).map FieldSpec.id).Nodup := by
    rw [List.map_map]
    exact h.ids
  rw [fieldsOf, h.linesIn_text, linesOf, hread]
  exact Text.firstsBy_eq_self hids

/-- The lines of the body make the body. -/
theorem Writable.body_text (h : d.Writable) : Wpml.body d.text = d.body.toList := by
  have hlines := Text.flatMap_lineOf_lines h.body.1 h.no_return h.newline_not_last
  have hne : Text.lines d.body.toList ≠ [] := by
    intro hnil
    rw [hnil] at hlines
    exact absurd hlines.symm (by simp)
  rw [Text.flatMap_lineOf_eq hne] at hlines
  rw [body_eq, h.linesIn_text, linesOf, List.append_cancel_right hlines]
  exact h.body.2

theorem Writable.template_text (h : d.Writable) : Wpml.template d.text = .ok d.template := by
  have hne : linesIn .body d.text ≠ [] := by
    rw [Ne, ← body_eq_nil_iff, h.body_text]
    exact h.body.1
  refine template_eq_ok_iff.mpr ⟨d.key, d.name, ?_, ?_, hne, ?_⟩
  · rw [headerValue?, h.entries_header, entries]
    cases d.context <;> rfl
  · rw [headerValue?, h.entries_header, entries]
    cases d.context <;> rfl
  · rw [template, h.fieldsOf_text, h.body_text, String.ofList_toList, contextOf?, headerValue?,
      headerValue?, h.entries_header, entries]
    cases d.context <;> rfl

/-- Every line of the header makes an entry and every line among the fields makes a field. -/
theorem Writable.records_text (h : d.Writable) : records d.text = [] := by
  have hheader : (inPart .header (place d.text)).filterMap headerEvent? = [] := by
    refine List.filterMap_eq_nil_iff.mpr fun l hl => ?_
    have hline := List.mem_map_of_mem (f := Line.text) hl
    rw [map_text_inPart_place, h.linesIn_text] at hline
    obtain ⟨e, he, hentry⟩ := List.mem_map.mp hline
    rw [headerEvent?, ← hentry, h.readEntry_entryLine he]
    simp
  have hlength : ((readings d.text).filterMap Reading.field?).length =
      (readings d.text).length := by
    rw [fields_readings, ← fieldsOf, h.fieldsOf_text, List.length_map, readings, length_readFields,
      ← List.length_map (f := Line.text), map_text_inPart_place, h.linesIn_text, linesOf,
      List.length_map]
  have hfields : (readings d.text).filterMap Reading.record? = [] := by
    refine List.filterMap_eq_nil_iff.mpr fun r hr => ?_
    have hfield := List.filterMap_length_eq_length.mp hlength r hr
    cases r with
    | field f => rfl
    | skipped record => cases hfield
  rw [records, hheader, hfields, List.append_nil]

/-- A document whose parts look like separators and markers of other places. -/
def specimen : Document where
  key := "a:b"
  name := "[fields]"
  context := some "urn: c"
  fields := [⟨"@status", "select", "", true, some ["required", "values: 1"]⟩,
    ⟨"since", "date", "Since [body]", false, none⟩]
  body := "@key: d\nx:y:z"

theorem writable_specimen : specimen.Writable where
  values := by
    have hall : ∀ v ∈ specimen.key :: specimen.name :: specimen.context.toList,
        (v.toList ≠ [] ∧ Trimmed v.toList) ∧ '\n' ∉ v.toList := by decide
    exact hall
  fields := by
    have hvalues : ∀ v ∈ ["required", "values: 1"], Filled v.toList := by
      have hall : ∀ v ∈ ["required", "values: 1"], v.toList ≠ [] ∧ Trimmed v.toList := by decide
      exact hall
    intro f hf
    simp only [specimen, List.mem_cons, List.not_mem_nil, or_false] at hf
    rcases hf with rfl | rfl
    · refine ⟨⟨by decide, by decide⟩, by decide, by decide, by simp, by decide, ?_, ?_⟩
      · rintro vs ⟨⟩
        exact ⟨by decide, by decide, hvalues⟩
      · rintro vs ⟨⟩
        simp
    · refine ⟨⟨by decide, by decide⟩, by decide, by decide, by simp, by decide, ?_, ?_⟩
      · exact FieldSpec.hasChoices_of_none rfl
      · rintro vs ⟨⟩
  ids := by decide
  body := ⟨by decide, by decide⟩
  no_return := by decide
  body_lines := by decide

end Document

end Issuance.Wpml

namespace Issuance.Template

open Wpml (Document)

/-- A text that a document is written as is read as the template of the document, and no line of it
    is passed over; whether its last line ends makes no difference. -/
theorem load_written {d : Document} (h : d.Writable) :
    load .wpml d.text = .pure d.template ∧
      load .wpml (d.text ++ ['\n']) = .pure d.template := by
  have htext : load .wpml d.text = .pure d.template := by
    rw [load, h.records_text, h.template_text]
    rfl
  have hsame : load .wpml (d.text ++ ['\n']) = load .wpml d.text := by
    have hparts : ∀ part, Wpml.linesIn part (d.text ++ ['\n']) = Wpml.linesIn part d.text := by
      intro part
      rw [Wpml.linesIn, Wpml.linesIn, h.lines_text_concat]
    have hrecords : Wpml.records (d.text ++ ['\n']) = Wpml.records d.text := by
      simp only [Wpml.records, Wpml.readings, Wpml.place, h.lines_text_concat]
    simp only [load, hrecords, Wpml.template_congr hparts]
  exact ⟨htext, hsame.trans htext⟩

/-- A document, as it is written and as it is read. -/
theorem load_written_specimen :
    Document.specimen.Writable ∧ load .wpml (Text.joinLines <| ["@key: a:b", "@name: [fields]",
      "@context: urn: c", "[fields]", "@status:select::required,values=required|values: 1",
      "since:date:Since [body]", "[body]", "@key: d", "x:y:z", ""].map String.toList) =
        .pure Document.specimen.template := by
  refine ⟨Document.writable_specimen, ?_⟩
  rw [← (load_written Document.writable_specimen).2]
  exact congrArg (load .wpml) (by decide +kernel)

end Issuance.Template

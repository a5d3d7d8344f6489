import Issuance.Proofs.Template.Sections
import Issuance.Proofs.Text.BlankLines

/-! # What a WPML text means

    A WPML text is a template just when its header gives a key and a name and its body has a line.
    All that a template holds comes from the lines of the three parts: the last value of each name,
    the first field of each id, and the lines of the body as they follow each other. -/

namespace Issuance

namespace Wpml

variable {text : List Char} {name value : String} {line : List Char}

/-! ### Blank parts do not occur -/

theorem not_blank_of_lastValue? {entries : List (List Char)}
    (h : lastValue? name (entries.filterMap readEntry) = some value) :
    Text.allBlank value.toList = false := by
  rw [lastValue?_filterMap] at h
  obtain ⟨l, -, hl⟩ := List.mem_filterMap.mp (List.mem_of_getLast? h)
  obtain ⟨e, he, hvalue⟩ := Option.bind_eq_some_iff.mp hl
  obtain ⟨k, v, -, -, -, hv, rfl⟩ := readEntry_eq_some_iff.mp he
  rw [Text.under?] at hvalue
  split_ifs at hvalue
  cases hvalue
  rw [String.toList_ofList, Text.allBlank_trim, hv]

theorem body_eq (text : List Char) :
    body text = Text.trim (Text.joinLines (linesIn .body text)) := by
  rw [body, map_text_inPart_place]

theorem body_eq_nil_iff : body text = [] ↔ linesIn .body text = [] := by
  rw [body_eq, Text.trim_eq_nil_iff, Text.allBlank_joinLines]
  constructor
  · intro h
    rw [List.eq_nil_iff_forall_not_mem]
    intro l hl
    have hblank := List.all_eq_true.mp h l hl
    rw [linesIn_eq_sift] at hl
    rw [not_blank_of_mem_sift hl] at hblank
    cases hblank
  · intro h
    rw [h]
    rfl

/-! ### Field lines -/

/-- A line `id:type:rest` that makes a field: no comma stands before the second colon, and the id is
    not blank. -/
def WellFormed (line : List Char) : Prop :=
  ∃ id type rest, line = id ++ ':' :: (type ++ ':' :: rest) ∧
    (∀ c ∈ id ++ type, c ≠ ':' ∧ c ≠ ',') ∧ Text.allBlank id = false

/-- The colons up to the first comma decide whether a line makes a field. -/
theorem exists_field?_of_primary {primary : List Char} {modifiers : List (List Char)}
    (hcommas : Text.splitOn ',' line = primary :: modifiers) :
    (∃ f, field? line = some f) ↔ ∃ id type rest, primary = id ++ ':' :: (type ++ ':' :: rest) ∧
      ':' ∉ id ∧ ':' ∉ type ∧ Text.allBlank id = false := by
  constructor
  · rintro ⟨f, hf⟩
    rw [field?, hcommas] at hf
    dsimp only at hf
    split at hf
    · next id type label rest hcolons =>
      split_ifs at hf with hblank
      obtain ⟨hid, ⟨-, hnil⟩ | ⟨t, rfl, ht⟩⟩ := Text.splitOn_eq_cons_iff.mp hcolons
      · cases hnil
      obtain ⟨htype, ⟨-, hnil⟩ | ⟨u, rfl, -⟩⟩ := Text.splitOn_eq_cons_iff.mp ht
      · cases hnil
      exact ⟨id, type, u, rfl, hid, htype, by simpa using hblank⟩
    · cases hf
  · rintro ⟨id, type, rest, rfl, hid, htype, hblank⟩
    obtain ⟨label, more, hrest⟩ := List.exists_cons_of_ne_nil (Text.splitOn_ne_nil ':' rest)
    have hcolons : Text.splitOn ':' (id ++ ':' :: (type ++ ':' :: rest)) =
        id :: type :: label :: more := by
      rw [Text.splitOn_append_cons _ hid, Text.splitOn_append_cons _ htype, hrest]
    rw [field?, hcommas]
    dsimp only
    rw [hcolons]
    simp [hblank]

theorem exists_field?_iff : (∃ f, field? line = some f) ↔ WellFormed line := by
  obtain ⟨primary, modifiers, hcommas⟩ := List.exists_cons_of_ne_nil (Text.splitOn_ne_nil ',' line)
  rw [exists_field?_of_primary hcommas]
  obtain ⟨hprimary, hline⟩ := Text.splitOn_eq_cons_iff.mp hcommas
  constructor
  · rintro ⟨id, type, rest, rfl, hid, htype, hblank⟩
    have hfree : ∀ c ∈ id ++ type, c ≠ ':' ∧ c ≠ ',' := by
      intro c hc
      refine ⟨?_, ?_⟩
      · rintro rfl
        exact (List.mem_append.mp hc).elim hid htype
      · rintro rfl
        refine hprimary ?_
        rcases List.mem_append.mp hc with hc | hc <;> simp [hc]
    rcases hline with ⟨rfl, -⟩ | ⟨t, rfl, -⟩
    · exact ⟨id, type, rest, rfl, hfree, hblank⟩
    · exact ⟨id, type, rest ++ ',' :: t, by simp, hfree, hblank⟩
  · rintro ⟨id, type, rest, rfl, hfree, hblank⟩
    have hid : ':' ∉ id := fun h => (hfree ':' (List.mem_append_left _ h)).1 rfl
    have htype : ':' ∉ type := fun h => (hfree ':' (List.mem_append_right _ h)).1 rfl
    have hhead : ',' ∉ id ++ ':' :: (type ++ [':']) := by
      simp only [List.mem_append, List.mem_cons, List.not_mem_nil, or_false]
      rintro (h | h | h | h)
      · exact (hfree ',' (List.mem_append_left _ h)).2 rfl
      · exact absurd h (by decide)
      · exact (hfree ',' (List.mem_append_right _ h)).2 rfl
      · exact absurd h (by decide)
    -- The first comma, if there is one, stands behind the second colon.
    obtain ⟨label, more, hrest⟩ := List.exists_cons_of_ne_nil (Text.splitOn_ne_nil ',' rest)
    obtain ⟨hlabel, hcut⟩ := Text.splitOn_eq_cons_iff.mp hrest
    have hsplit : Text.splitOn ',' (id ++ ':' :: (type ++ ':' :: rest)) =
        (id ++ ':' :: (type ++ ':' :: label)) :: more := by
      refine Text.splitOn_eq_cons_iff.mpr ⟨?_, ?_⟩
      · have hall := List.not_mem_append hhead hlabel
        simpa using hall
      · rcases hcut with ⟨rfl, rfl⟩ | ⟨t, rfl, ht⟩
        · exact .inl ⟨rfl, rfl⟩
        · exact .inr ⟨t, by simp, ht⟩
    rw [hsplit] at hcommas
    cases hcommas
    exact ⟨id, type, label, rfl, hid, htype, hblank⟩

/-! ### The template of a text -/

/-- The last value that the header of a text gives to a name. -/
def headerValue? (name : String) (text : List Char) : Option String :=
  lastValue? name ((linesIn .header text).filterMap readEntry)

/-- The context that a text gives, under either of its names. -/
def contextOf? (text : List Char) : Option String :=
  (headerValue? "context" text).or (headerValue? "@context" text)

/-- The fields of a text: the first of each id. -/
def fieldsOf (text : List Char) : List FieldSpec :=
  Text.firstsBy FieldSpec.id ((linesIn .fields text).filterMap field?)

/-- A text is refused for what it lacks; nothing that it holds is refused when the template is
    built. -/
theorem template_eq (text : List Char) :
    template text =
      match headerValue? "key" text, headerValue? "name" text with
      | some key, some name =>
        if linesIn .body text = [] then .error .sectionsLackBody
        else
          .ok (Template.ofParts key name (contextOf? text) (fieldsOf text)
            (.text (String.ofList (body text))))
      | _, _ => .error .sectionsLackIdentity := by
  rw [template, entries_eq, fields_readings]
  dsimp only
  rw [← headerValue?, ← headerValue?, ← headerValue?, ← headerValue?, ← contextOf?]
  rcases hkey : headerValue? "key" text with _ | key
  · rfl
  rcases hname : headerValue? "name" text with _ | name
  · rfl
  by_cases hbody : linesIn .body text = []
  · simp only [body_eq_nil_iff.mpr hbody, if_pos hbody, if_true]
  · have hfilled : ¬body text = [] := fun h => hbody (body_eq_nil_iff.mp h)
    have hskeleton : (Body.text (String.ofList (body text))).skeleton =
        .ok (.text (String.ofList (body text))) := by
      have hblank : Text.allBlank (body text) = false := by
        rw [Bool.eq_false_iff]
        intro hblank
        rw [← Text.trim_eq_nil_iff] at hblank
        rw [body, Text.trimmed_trim, ← body] at hblank
        exact hfilled hblank
      simp [Body.skeleton, hblank]
    have hcontext : ∀ c, contextOf? text = some c → Text.allBlank c.toList = false := by
      intro c hc
      rcases Option.or_eq_some_iff.mp hc with hc | ⟨-, hc⟩
      · exact not_blank_of_lastValue? hc
      · exact not_blank_of_lastValue? hc
    have hnodup : firstRepeat [] ((fieldsOf text).map FieldSpec.id) = none :=
      firstRepeat_eq_none_iff.mpr ⟨Text.nodup_map_firstsBy _, fun _ _ => List.not_mem_nil⟩
    simp only [if_neg hbody, if_neg hfilled]
    refine (Template.build_of_skeleton (not_blank_of_lastValue? hkey)
      (not_blank_of_lastValue? hname) hskeleton hcontext).trans ?_
    rw [← fieldsOf, hnodup]

/-- The template of a text is settled by the lines of its three parts. -/
theorem template_congr {text' : List Char}
    (h : ∀ part, linesIn part text' = linesIn part text) : template text' = template text := by
  rw [template_eq, template_eq]
  simp only [headerValue?, contextOf?, fieldsOf, body_eq, h]

/-! ### What the parts say -/

/-- A template that holds what the parts of a text give: for a name the value of the last line that
    has one, for a field the first line with its id, and the body as a whole. -/
structure Describes (text : List Char) (t : Template) : Prop where
  key : Text.LastGiven (IsEntry "key") (linesIn .header text) t.key
  name : Text.LastGiven (IsEntry "name") (linesIn .header text) t.name
  context : ∀ c, t.context = some c ↔
    Text.LastGiven (IsEntry "context") (linesIn .header text) c ∨
      (∀ line ∈ linesIn .header text, ∀ value, ¬IsEntry "context" line value) ∧
        Text.LastGiven (IsEntry "@context") (linesIn .header text) c
  fields : t.fields = Text.firstsBy FieldSpec.id ((linesIn .fields text).filterMap field?)
  defaults : t.defaults = []
  skeleton : t.skeleton =
    .text (String.ofList (Text.trim (Text.joinLines (linesIn .body text))))

theorem reads_entry {name : String} (hne : name.toList ≠ []) (hcolon : ':' ∉ name.toList)
    (text : List Char) : ∀ l ∈ linesIn .header text, ∀ v,
      valueUnder? name l = some v ↔ IsEntry name l v :=
  fun _ _ _ => valueUnder?_eq_some_iff hne hcolon

theorem headerValue?_eq_some_iff {name value : String} (hne : name.toList ≠ [])
    (hcolon : ':' ∉ name.toList) :
    headerValue? name text = some value ↔
      Text.LastGiven (IsEntry name) (linesIn .header text) value := by
  rw [headerValue?, lastValue?_filterMap, Text.lastGiven_iff (reads_entry hne hcolon text)]

theorem headerValue?_eq_none_iff {name : String} (hne : name.toList ≠ [])
    (hcolon : ':' ∉ name.toList) :
    headerValue? name text = none ↔
      ∀ line ∈ linesIn .header text, ∀ value, ¬IsEntry name line value := by
  rw [headerValue?, lastValue?_filterMap,
    Text.getLast?_eq_none_iff_of_reads (reads_entry hne hcolon text)]

theorem exists_headerValue?_iff {name : String} (hne : name.toList ≠ [])
    (hcolon : ':' ∉ name.toList) :
    (∃ value, headerValue? name text = some value) ↔
      ∃ line ∈ linesIn .header text, ∃ value, IsEntry name line value := by
  simp only [headerValue?, lastValue?_filterMap]
  exact Text.exists_getLast?_iff (reads_entry hne hcolon text)

theorem template_eq_ok_iff {t : Template} :
    template text = .ok t ↔ ∃ key name, headerValue? "key" text = some key ∧
      headerValue? "name" text = some name ∧ linesIn .body text ≠ [] ∧
      t = Template.ofParts key name (contextOf? text) (fieldsOf text)
        (.text (String.ofList (body text))) := by
  rw [template_eq]
  constructor
  · intro h
    split at h
    · next key name hkey hname =>
      split_ifs at h with hbody
      cases h
      exact ⟨key, name, hkey, hname, hbody, rfl⟩
    · cases h
  · rintro ⟨key, name, hkey, hname, hbody, rfl⟩
    simp only [hkey, hname, if_neg hbody]

theorem describes_of_template {t : Template} (h : template text = .ok t) : Describes text t := by
  obtain ⟨key, name, hkey, hname, -, rfl⟩ := template_eq_ok_iff.mp h
  refine ⟨?_, ?_, ?_, rfl, rfl, ?_⟩
  · exact (headerValue?_eq_some_iff (by decide) (by decide)).mp hkey
  · exact (headerValue?_eq_some_iff (by decide) (by decide)).mp hname
  · intro c
    change contextOf? text = some c ↔ _
    rw [contextOf?, Option.or_eq_some_iff, headerValue?_eq_some_iff (by decide) (by decide),
      headerValue?_eq_some_iff (by decide) (by decide),
      headerValue?_eq_none_iff (by decide) (by decide)]
  · rw [← body_eq]
    rfl

end Wpml

/-! ### Loading -/

namespace Template

/-- A WPML text is accepted just when its header gives a key and a name and its body has a line; any
    other text is an invalid template. The template then holds what the parts of the text give. So
    the outcome depends on the lines of the parts alone, and on how lines end not at all. -/
theorem outcome_load_wpml (text : List Char) :
    ((∃ t, (load .wpml text).outcome = .ok t) ↔
      (∃ line ∈ Wpml.linesIn .header text, ∃ value, Wpml.IsEntry "key" line value) ∧
      (∃ line ∈ Wpml.linesIn .header text, ∃ value, Wpml.IsEntry "name" line value) ∧
      ∃ line, line ∈ Wpml.linesIn .body text) ∧
    (∀ e, (load .wpml text).outcome = .error e → ∃ flaw, e = .templateInvalid flaw) ∧
    (∀ t, (load .wpml text).outcome = .ok t → Wpml.Describes text t) ∧
    (∀ line ∈ Wpml.linesIn .fields text,
      (∃ f, Wpml.field? line = some f) ↔ Wpml.WellFormed line) ∧
    (∀ text', (∀ part, Wpml.linesIn part text' = Wpml.linesIn part text) →
      (load .wpml text').outcome = (load .wpml text).outcome) ∧
    ('\r' ∉ text → load .wpml (Text.withReturns text) = load .wpml text) := by
  have hok : ∀ t, (load .wpml text).outcome = .ok t ↔ Wpml.template text = .ok t :=
    fun _ => refuse_eq_ok_iff
  refine ⟨?_, ?_, ?_, fun line _ => Wpml.exists_field?_iff, ?_, ?_⟩
  · -- acceptance
    simp only [hok, Wpml.template_eq_ok_iff]
    rw [← Wpml.exists_headerValue?_iff (by decide) (by decide),
      ← Wpml.exists_headerValue?_iff (by decide) (by decide)]
    constructor
    · rintro ⟨-, key, name, hkey, hname, hbody, -⟩
      exact ⟨⟨key, hkey⟩, ⟨name, hname⟩, List.exists_mem_of_ne_nil _ hbody⟩
    · rintro ⟨⟨key, hkey⟩, ⟨name, hname⟩, line, hline⟩
      exact ⟨_, key, name, hkey, hname, List.ne_nil_of_mem hline, rfl⟩
  · -- failures
    intro e he
    obtain ⟨flaw, rfl, -⟩ := exists_flaw_of_refuse he
    exact ⟨flaw, rfl⟩
  · exact fun t ht => Wpml.describes_of_template ((hok t).mp ht)
  · intro text' h
    simp only [load, Wpml.template_congr h]
  · intro hreturn
    have hlines := Text.lines_withReturns hreturn
    have hparts : ∀ part, Wpml.linesIn part (Text.withReturns text) = Wpml.linesIn part text := by
      intro part
      rw [Wpml.linesIn, Wpml.linesIn, hlines]
    have hrecords : Wpml.records (Text.withReturns text) = Wpml.records text := by
      simp only [Wpml.records, Wpml.readings, Wpml.place, hlines]
    simp only [load, hrecords, Wpml.template_congr hparts]

end Template

/-- A text whose fields are opened a second time, inside of its body. -/
def Wpml.specimen : List Char :=
  Text.joinLines <| ["@key: old", "@key: card", "@name: Card", "[fields]",
    "name:text:Name:required", "[body]", r"{", "", "[fields]", "name:date:Again",
    "[body] goes on", r"}"].map String.toList

/-- The second field line of the text repeats an id, and the body is read across it. -/
theorem Template.outcome_load_wpml_specimen :
    '\r' ∉ Wpml.specimen ∧
      load .wpml (Text.withReturns Wpml.specimen) = load .wpml Wpml.specimen ∧
      ∃ t, (load .wpml Wpml.specimen).outcome = .ok t ∧
        t.fields = [{ id := "name", type := .text, label := "Name", required := true }] ∧
        t.skeleton = .text (r"{" ++ "\n" ++ r"}") := by
  obtain ⟨haccepted, -, hdescribes, -, -, hreturns⟩ := outcome_load_wpml Wpml.specimen
  have hreturn : '\r' ∉ Wpml.specimen := by decide +kernel
  have hkey : Wpml.IsEntry "key" "@key: card".toList "card" :=
    ⟨"key".toList, " card".toList, by decide +kernel⟩
  have hname : Wpml.IsEntry "name" "@name: Card".toList "Card" :=
    ⟨"name".toList, " Card".toList, by decide +kernel⟩
  obtain ⟨t, ht⟩ := haccepted.mpr ⟨⟨_, by decide +kernel, _, hkey⟩,
    ⟨_, by decide +kernel, _, hname⟩, r"{".toList, by decide +kernel⟩
  have hparts := hdescribes t ht
  refine ⟨hreturn, hreturns hreturn, t, ht, ?_, ?_⟩
  · rw [hparts.fields]
    decide +kernel
  · rw [hparts.skeleton]
    exact congrArg Skeleton.text (by decide +kernel)

end Issuance

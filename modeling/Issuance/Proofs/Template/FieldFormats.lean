import Issuance.Proofs.Json.Compact
import Issuance.Proofs.Json.Reading
import Issuance.Proofs.Template.ObjectFormat
import Issuance.Proofs.Template.PlainField

/-! # Fields in three formats

    The notations of fields can be put into any text of their format that is a template without
    fields, among its other lines, and the template gets just these fields, in their order. So the
    three formats agree on the fields that all of them can write. -/

namespace Issuance

open Text (EndsLine lineOf)

namespace Wpml

variable {fs : List PlainField} {before after : List Char} {t : Template}

/-- Field lines put among the fields of a text stand in no other part. -/
theorem linesIn_sectionText (after : List Char) (hbefore : EndsLine before)
    (hopen : openBehind .header (Text.lines before) = .fields) (hfs : ∀ f ∈ fs, f.Writable)
    (part : Part) : ∃ front back, linesIn part (before ++ after) = front ++ back ∧
      linesIn part (before ++ (PlainField.sectionText fs ++ after)) =
        front ++ ((if .fields = part then fs.map PlainField.sectionLine else []) ++ back) := by
  have hmarker : ∀ line ∈ fs.map PlainField.sectionLine, opens? line = none :=
    List.forall_mem_map.mpr fun f hf => (hfs f hf).opens?_sectionLine
  have hfilled : (fs.map PlainField.sectionLine).filter (!Text.allBlank ·) =
      fs.map PlainField.sectionLine := by
    refine List.filter_eq_self.mpr (List.forall_mem_map.mpr fun f hf => ?_)
    rw [(hfs f hf).not_blank_sectionLine]
    rfl
  refine ⟨sift part .header (Text.lines before), sift part .fields (Text.lines after), ?_, ?_⟩
  · rw [linesIn_eq_sift, Text.lines_append hbefore, sift_append, hopen]
  · rw [linesIn_eq_sift, Text.lines_append hbefore, PlainField.sectionText,
      Text.lines_append (Text.endsLine_flatMap_lineOf _), ← PlainField.sectionText,
      PlainField.lines_sectionText hfs, sift_append, hopen, sift_append,
      openBehind_of_no_marker _ hmarker, sift_of_no_marker _ _ hmarker, hfilled]

/-- A template without fields gets the fields whose lines are put among its fields. -/
theorem template_sectionText (hbefore : EndsLine before)
    (hopen : openBehind .header (Text.lines before) = .fields) (hfs : ∀ f ∈ fs, f.Writable)
    (hids : (fs.map PlainField.id).Nodup)
    (h : template (before ++ after) = .ok t) (hnone : t.fields = []) :
    template (before ++ (PlainField.sectionText fs ++ after)) =
      .ok { t with fields := fs.map PlainField.spec } := by
  have hothers : ∀ part, part ≠ .fields →
      linesIn part (before ++ (PlainField.sectionText fs ++ after)) =
        linesIn part (before ++ after) := by
    intro part hpart
    obtain ⟨front, back, hwithout, hwith⟩ :=
      linesIn_sectionText after hbefore hopen hfs part
    rw [hwith, hwithout, if_neg hpart.symm, List.nil_append]
  have hheader := hothers .header (by decide)
  have hbody := hothers .body (by decide)
  obtain ⟨key, name, hkey, hname, hne, rfl⟩ := template_eq_ok_iff.mp h
  have hfields : fieldsOf (before ++ (PlainField.sectionText fs ++ after)) =
      fs.map PlainField.spec := by
    obtain ⟨front, back, hwithout, hwith⟩ :=
      linesIn_sectionText after hbefore hopen hfs .fields
    have hnil := Text.firstsBy_eq_nil_iff.mp hnone
    rw [hwithout, List.filterMap_append, List.append_eq_nil_iff] at hnil
    rw [fieldsOf, hwith, if_pos rfl, List.filterMap_append, List.filterMap_append, hnil.1, hnil.2,
      PlainField.filterMap_field?_sectionLine hfs, List.nil_append, List.append_nil]
    exact Text.firstsBy_eq_self (by rwa [PlainField.map_id_spec])
  refine template_eq_ok_iff.mpr ⟨key, name, ?_, ?_, ?_, ?_⟩
  · rw [← hkey, headerValue?, headerValue?, hheader]
  · rw [← hname, headerValue?, headerValue?, hheader]
  · rwa [hbody]
  · simp only [Template.ofParts, hfields, contextOf?, headerValue?, hheader, body_eq, hbody]

end Wpml

namespace Wpt

variable {fs : List PlainField} {before after : List Char} {t : Template}

/-- Field directives put before the separator of a text stand among its header lines. -/
theorem headerLines_directiveText (after : List Char) (hbefore : EndsLine before)
    (hheader : ∀ line ∈ Text.lines before, isSeparator line = false) (hfs : ∀ f ∈ fs, f.Writable) :
    ∃ front back, headerLines (before ++ after) = front ++ back ∧
      headerLines (before ++ (PlainField.directiveText fs ++ after)) =
        front ++ (fs.map PlainField.directiveLine ++ back) := by
  have hhead : ∀ f : PlainField, ∃ rest, f.directiveLine = '@' :: rest :=
    fun f => ⟨_, PlainField.directiveLine_eq⟩
  have htrim : (fs.map PlainField.directiveLine).map Text.trim =
      fs.map PlainField.directiveLine := by
    rw [List.map_map]
    exact List.map_congr_left fun f hf => (hfs f hf).trimmed_directiveLine
  have hfields : ∀ line ∈ fs.map PlainField.directiveLine, (!isSeparator line) = true := by
    refine List.forall_mem_map.mpr fun f hf => ?_
    have htrimmed : Text.trim f.directiveLine = f.directiveLine := (hfs f hf).trimmed_directiveLine
    have hseparator : separator = '-' :: "--".toList := rfl
    obtain ⟨rest, hrest⟩ := hhead f
    rw [isSeparator, htrimmed, hrest, hseparator]
    rfl
  have hfilter : ((fs.map PlainField.directiveLine).filter fun l => l ≠ [] && l.head? ≠ some '#') =
      fs.map PlainField.directiveLine := by
    refine List.filter_eq_self.mpr (List.forall_mem_map.mpr fun f _ => ?_)
    obtain ⟨rest, hrest⟩ := hhead f
    simp [hrest]
  have hall : ∀ line ∈ Text.lines before, (!isSeparator line) = true := by
    simpa using hheader
  refine ⟨((Text.lines before).map Text.trim).filter fun l => l ≠ [] && l.head? ≠ some '#',
    headerLines after, ?_, ?_⟩
  · rw [headerLines, Text.lines_append hbefore, List.takeWhile_append_of_pos hall, List.map_append,
      List.filter_append, headerLines]
  · rw [headerLines, Text.lines_append hbefore, PlainField.directiveText,
      Text.lines_append (Text.endsLine_flatMap_lineOf _), ← PlainField.directiveText,
      PlainField.lines_directiveText hfs, List.takeWhile_append_of_pos hall,
      List.takeWhile_append_of_pos hfields, List.map_append, List.map_append, htrim,
      List.filter_append, List.filter_append, hfilter, headerLines]

/-- A template without fields gets the fields whose directives are put into its header. -/
theorem template_directiveText (hbefore : EndsLine before)
    (hheader : ∀ line ∈ Text.lines before, isSeparator line = false) (hfs : ∀ f ∈ fs, f.Writable)
    (hids : (fs.map PlainField.id).Nodup) (h : template (before ++ after) = .ok t)
    (hnone : t.fields = []) :
    ∃ t', template (before ++ (PlainField.directiveText fs ++ after)) = .ok t' ∧
      t'.toSummary = { t.toSummary with fields := fs.map PlainField.spec } := by
  obtain ⟨front, back, hwithout, hwith⟩ := headerLines_directiveText after hbefore hheader hfs
  have hlines : ∀ {α : Type} (sort : Directive → Option α),
      (fs.map PlainField.directiveLine).filterMap (given? sort) =
        fs.filterMap fun f => sort (.field f.spec) := by
    intro α sort
    rw [List.filterMap_map]
    refine List.filterMap_congr fun f hf => ?_
    rw [Function.comp_apply, given?, (hfs f hf).directive_directiveLine]
    rfl
  have hgiven : ∀ {α : Type} (sort : Directive → Option α),
      givenBy sort (before ++ (PlainField.directiveText fs ++ after)) =
        front.filterMap (given? sort) ++
          (fs.filterMap (fun f => sort (.field f.spec)) ++ back.filterMap (given? sort)) := by
    intro α sort
    rw [givenBy, hwith, List.filterMap_append, List.filterMap_append, hlines]
  have hothers : ∀ {α : Type} (sort : Directive → Option α), (∀ f, sort (.field f) = none) →
      givenBy sort (before ++ (PlainField.directiveText fs ++ after)) =
        givenBy sort (before ++ after) := by
    intro α sort hsort
    have hnil : fs.filterMap (fun f => sort (.field f.spec)) = [] :=
      List.filterMap_eq_nil_iff.mpr fun f _ => hsort f.spec
    rw [hgiven, hnil, List.nil_append, givenBy, hwithout, List.filterMap_append]
  obtain ⟨hall, -, key, hkey, rfl⟩ := template_eq_ok_iff.mp h
  have hfields : givenBy Directive.field? (before ++ (PlainField.directiveText fs ++ after)) =
      fs.map PlainField.spec := by
    have hnil : givenBy Directive.field? (before ++ after) = [] := by
      rw [templateOf_eq] at hnone
      exact hnone
    rw [givenBy, hwithout, List.filterMap_append, List.append_eq_nil_iff] at hnil
    rw [hgiven, hnil.1, hnil.2, List.nil_append, List.append_nil, ← List.filterMap_eq_map]
    rfl
  refine ⟨_, template_eq_ok_iff.mpr ⟨?_, ?_, key, ?_, rfl⟩, ?_⟩
  · intro line hline
    rw [hwith] at hline
    rcases List.mem_append.mp hline with hline | hline
    · exact hall line (hwithout ▸ List.mem_append_left back hline)
    rcases List.mem_append.mp hline with hline | hline
    · obtain ⟨f, hf, rfl⟩ := List.mem_map.mp hline
      exact ⟨_, (directive_eq_ok_iff (hfs f hf).trimmed_directiveLine).mp
        (hfs f hf).directive_directiveLine⟩
    · exact hall line (hwithout ▸ List.mem_append_right front hline)
  · rwa [hfields, PlainField.map_id_spec]
  · rw [← hkey]
    exact congrArg _ (hothers _ fun _ => rfl)
  · simp only [templateOf_eq, hfields, hothers Directive.name? fun _ => rfl,
      hothers Directive.context? fun _ => rfl, hothers Directive.default? fun _ => rfl]
    rfl

end Wpt

namespace Wpm

variable {fs : List PlainField} {raw description : Json} {vc : Json.Object}

/-- An object with a skeleton and with the members of fields is a template with the fields. -/
theorem template_objectMembers (hfs : ∀ f ∈ fs, f.Writable) (hids : (fs.map PlainField.id).Nodup)
    (hvc : raw.member? "vc" = some (.object vc)) (hmeta : raw.member? "meta" = some description)
    (hfields : description.member? "fields" = some (.object (fs.map PlainField.objectMember))) :
    ∃ t, template raw = .ok t ∧ t.fields = fs.map PlainField.spec ∧ t.skeleton = .object vc := by
  have hwritten : described? raw "fields" = some (.object (fs.map PlainField.objectMember)) := by
    rw [described?, hmeta, Option.bind_some, hfields]
  have hread : fields (Wpm.description raw) = fs.map PlainField.spec := by
    rw [fields_of_described? hwritten, List.map_map]
    exact List.map_congr_left fun f hf => (hfs f hf).field_objectMember
  refine ⟨made raw vc, template_of_credential ?_ hvc, hread, rfl⟩
  rwa [hread, PlainField.map_id_spec]

end Wpm

/-! ### All three -/

namespace Template

/-- Fields that every notation can write are read as the same list of fields in all three formats,
    in their order: from lines put among the fields of a WPML text, from directives put into the
    header of a WPT text, where the text is a template without fields of its own, and from the
    members of a WPM object. -/
theorem fields_agree {fs : List PlainField} (hfs : ∀ f ∈ fs, f.Writable)
    (hids : (fs.map PlainField.id).Nodup) :
    (∀ before after t, EndsLine before →
      Wpml.openBehind .header (Text.lines before) = .fields →
      (load .wpml (before ++ after)).outcome = .ok t → t.fields = [] →
        (load .wpml (before ++ (PlainField.sectionText fs ++ after))).outcome =
          .ok { t with fields := fs.map PlainField.spec }) ∧
    (∀ before after t, EndsLine before →
      (∀ line ∈ Text.lines before, Wpt.isSeparator line = false) →
      (load .wpt (before ++ after)).outcome = .ok t → t.fields = [] →
        ∃ t', (load .wpt (before ++ (PlainField.directiveText fs ++ after))).outcome = .ok t' ∧
          t'.toSummary = { t.toSummary with fields := fs.map PlainField.spec }) ∧
    ∀ text raw description vc, Json.parse text = .ok raw →
      raw.member? "vc" = some (.object vc) → raw.member? "meta" = some description →
      description.member? "fields" = some (.object (fs.map PlainField.objectMember)) →
        ∃ t, (load .wpm text).outcome = .ok t ∧ t.fields = fs.map PlainField.spec ∧
          t.skeleton = .object vc := by
  refine ⟨fun before after t hbefore hopen h hnone => ?_,
    fun before after t hbefore hheader h hnone => ?_,
    fun text raw description vc hparse hvc hmeta hfields => ?_⟩
  · have ht : Wpml.template (before ++ after) = .ok t := refuse_eq_ok_iff.mp h
    exact refuse_eq_ok_iff.mpr (Wpml.template_sectionText hbefore hopen hfs hids ht hnone)
  · have ht : Wpt.template (before ++ after) = .ok t := refuse_eq_ok_iff.mp h
    obtain ⟨t', ht', hsummary⟩ := Wpt.template_directiveText hbefore hheader hfs hids ht hnone
    exact ⟨t', refuse_eq_ok_iff.mpr ht', hsummary⟩
  · obtain ⟨t, ht, hparts⟩ := Wpm.template_objectMembers hfs hids hvc hmeta hfields
    refine ⟨t, ?_, hparts⟩
    simp only [load, Traced.ofExcept, demand, hparse]
    exact refuse_eq_ok_iff.mpr ht

end Template

/-! ### Fields to look at -/

namespace PlainField

/-- Fields whose ids and types look like parts of the notations. -/
def specimen : List PlainField :=
  [⟨"#a \"b\" @field", "required", true⟩, ⟨"subjectDid", "did", false⟩]

theorem writable_specimen : ∀ f ∈ specimen, f.Writable := by
  intro f hf
  simp only [specimen, List.mem_cons, List.not_mem_nil, or_false] at hf
  rcases hf with rfl | rfl
  · exact ⟨by decide, by decide, Text.forall_mem_of_all (by decide), by decide, by decide,
      Text.forall_mem_of_all (by decide)⟩
  · exact ⟨by decide, by decide, Text.forall_mem_of_all (by decide), by decide, by decide,
      Text.forall_mem_of_all (by decide)⟩

/-- A WPML text up to its fields. -/
def sectionsBefore : List Char :=
  (["@key: card", "@name: Card", "[fields]"].map String.toList).flatMap lineOf

/-- The body of the WPML text. -/
def sectionsAfter : List Char := (["[body]", r"{}"].map String.toList).flatMap lineOf

/-- A WPT text that gives a key. -/
def directivesBefore : List Char := lineOf "@key: card".toList

/-- The body of the WPT text. -/
def directivesAfter : List Char := (["---", r"{}"].map String.toList).flatMap lineOf

/-- A WPM value with the fields. -/
def object : Json :=
  .object [("meta", .object [("fields", .object (specimen.map objectMember))]), ("vc", .object [])]

theorem distinct_object : object.Distinct := by
  have hfields : (Json.object (specimen.map objectMember)).Distinct :=
    ⟨by decide, trivial, trivial, trivial⟩
  have hmeta : (Json.object [("fields", .object (specimen.map objectMember))]).Distinct :=
    ⟨List.nodup_singleton _, hfields, trivial⟩
  exact ⟨by decide, hmeta, ⟨List.nodup_nil, trivial⟩, trivial⟩

theorem parse_object : Json.parse object.compact = .ok object := by
  have hnumbers : ∀ n, .number n ∈ object.leaves → n.ReadsBack := by
    intro n hn
    simp [object, specimen, objectMember, Json.ofText, Json.leaves, Json.memberLeaves] at hn
  exact Json.parse_eq_ok_iff.mpr
    ⟨object, Json.writes_compact hnumbers, by decide, Json.merged_eq_self distinct_object⟩

end PlainField

/-- The same two fields come from all three formats. -/
theorem Template.fields_agree_specimen : ∃ t₁ t₂ t₃,
    (load .wpml (PlainField.sectionsBefore ++ (PlainField.sectionText PlainField.specimen ++
      PlainField.sectionsAfter))).outcome = .ok t₁ ∧
    (load .wpt (PlainField.directivesBefore ++ (PlainField.directiveText PlainField.specimen ++
      PlainField.directivesAfter))).outcome = .ok t₂ ∧
    (load .wpm PlainField.object.compact).outcome = .ok t₃ ∧
    t₁.fields = PlainField.specimen.map PlainField.spec ∧
    t₂.fields = PlainField.specimen.map PlainField.spec ∧
    t₃.fields = PlainField.specimen.map PlainField.spec := by
  obtain ⟨hsections, hdirectives, hobject⟩ :=
    fields_agree PlainField.writable_specimen (by decide)
  have hwithout : ∀ {x : Except Error Template}, x.toOption.map (fun t => t.fields) = some [] →
      ∃ t, x = .ok t ∧ t.fields = [] := by
    intro x hx
    obtain ⟨t, ht, hnone⟩ := Option.map_eq_some_iff.mp hx
    exact ⟨t, toOption_eq_some_iff.mp ht, hnone⟩
  obtain ⟨t₁, ht₁, hnone₁⟩ := hwithout
    (x := (load .wpml (PlainField.sectionsBefore ++ PlainField.sectionsAfter)).outcome)
    (by decide +kernel)
  obtain ⟨t₂, ht₂, hnone₂⟩ := hwithout
    (x := (load .wpt (PlainField.directivesBefore ++ PlainField.directivesAfter)).outcome)
    (by decide +kernel)
  obtain ⟨t₃, ht₃, hfields₃, -⟩ := hobject _ _ _ [] PlainField.parse_object rfl rfl rfl
  obtain ⟨t₂', ht₂', hsummary₂⟩ := hdirectives PlainField.directivesBefore
    PlainField.directivesAfter t₂ (Text.endsLine_lineOf _) (by decide +kernel) ht₂ hnone₂
  have hsections₁ := hsections PlainField.sectionsBefore PlainField.sectionsAfter t₁
    (Text.endsLine_flatMap_lineOf _) (by decide +kernel) ht₁ hnone₁
  exact ⟨_, t₂', t₃, hsections₁, ht₂', ht₃, rfl, congrArg Summary.fields hsummary₂, hfields₃⟩

end Issuance

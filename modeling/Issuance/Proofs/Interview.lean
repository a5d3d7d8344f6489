import Issuance.Proofs.Credential.Noninterference
import Issuance.Proofs.Prompt

/-! # Whatever is typed

    An interview ends whatever is typed: every question takes a line, and only the last one may find
    the input at its end. The lines that are read are the first ones of the input. A form that comes
    of it fills in the fields that were asked for, in their order, and each with a value of the
    field; when all of them were asked for, the form can be rendered as far as the required fields
    go. Only a line that is no text keeps an interview from its form. -/

namespace Issuance.Prompt

open Text (allBlank bytes trim)

variable {f : FieldSpec} {fields : List FieldSpec} {form : Json.Object} {line : List UInt8}
  {lines read : List (List UInt8)} {answer : String} {i : Interview}

/-! ### The lines of an input -/

/-- The lines are the input. -/
theorem flatten_byteLines (input : List UInt8) : (byteLines input).flatten = input := by
  fun_induction byteLines input with
  | case1 => rfl
  | case2 rest ih => rw [List.flatten_cons, ih]; rfl
  | case3 b rest _ hrest ih => rw [← ih, hrest]; rfl
  | case4 b rest _ line ls hrest ih => rw [← ih, hrest]; rfl

/-- A line feed stands at the end of a line only. -/
theorem newline_not_mem_dropLast (input : List UInt8) :
    ∀ line ∈ byteLines input, 10 ∉ line.dropLast := by
  fun_induction byteLines input with
  | case1 => exact nofun
  | case2 rest ih => exact List.forall_mem_cons.mpr ⟨List.not_mem_nil, ih⟩
  | case3 b rest _ _ _ => exact List.forall_mem_singleton.mpr List.not_mem_nil
  | case4 b rest hb line ls hrest ih =>
    rw [hrest, List.forall_mem_cons] at ih
    refine List.forall_mem_cons.mpr ⟨fun hmem => ?_, ih.2⟩
    cases line with
    | nil => cases hmem
    | cons c line =>
      rw [List.dropLast_cons_cons, List.mem_cons] at hmem
      rcases hmem with h | h
      · exact hb h.symm
      · exact ih.1 h

/-- The answer in a line is the trimmed text that the line holds. -/
theorem exists_text_of_answer? (h : answer? line = some answer) :
    ∃ s, bytes s = line ∧ answer = String.ofList (trim s) := by
  obtain ⟨s, hs, rfl⟩ := Option.map_eq_some_iff.mp h
  refine ⟨s.toList, ?_, rfl⟩
  rw [String.fromUTF8?] at hs
  split at hs
  · cases hs
    rw [bytes, String.ofList_toList]
    rfl
  · cases hs

theorem bytes_ne_nil {s : List Char} (h : s ≠ []) : bytes s ≠ [] := by
  obtain ⟨c, rest, rfl⟩ := List.exists_cons_of_ne_nil h
  rw [Text.bytes_eq_flatMap, List.flatMap_cons]
  intro hnil
  have hlength := congrArg List.length (List.append_eq_nil_iff.mp hnil).1
  rw [String.length_utf8EncodeChar] at hlength
  exact absurd hlength c.utf8Size_pos.ne'

/-- The answer in a line stands on one line. -/
theorem newline_not_mem_answer (hline : 10 ∉ line.dropLast) (h : answer? line = some answer) :
    '\n' ∉ answer.toList := by
  obtain ⟨s, rfl, rfl⟩ := exists_text_of_answer? h
  rw [String.toList_ofList]
  intro hmem
  obtain ⟨w, w', -, -, hs⟩ := Text.exists_trim s
  obtain ⟨before, after, htrim⟩ := List.append_of_mem hmem
  -- a trimmed text does not end with a line feed, so that the bytes of the line go on behind it
  have hafter : after ≠ [] := by
    rintro rfl
    have htrimmed := Text.trimmed_trim s
    rw [htrim] at htrimmed
    exact absurd (htrimmed.allBlank_suffix (List.cons_ne_nil _ _)) (by decide)
  have hbytes : bytes s = bytes (w ++ before) ++ 10 :: bytes (after ++ w') := by
    have hcut : s = w ++ before ++ ('\n' :: (after ++ w')) := by
      rw [hs, htrim, List.append_assoc, List.append_assoc, List.cons_append]
    rw [hcut, Text.bytes_append, ← List.singleton_append, Text.bytes_append ['\n']]
    rfl
  refine hline ?_
  rw [hbytes, List.dropLast_append_of_ne_nil (List.cons_ne_nil _ _),
    List.dropLast_cons_of_ne_nil (bytes_ne_nil (List.append_ne_nil_of_left_ne_nil hafter w'))]
  exact List.mem_append_right _ List.mem_cons_self

/-! ### What is read -/

/-- Whether a field is asked for. -/
def Utterance.isQuestion : Utterance → Bool
  | .question _ => true
  | _ => false

/-- How often a field is asked for in an interview. -/
def Interview.questions (i : Interview) : Nat := i.transcript.countP Utterance.isQuestion

/-- The lines that an interview reads of those that there are: the first ones, one for every
    question but at most one; all of them if the input ends, and one that is no text if that is how
    the interview ends. -/
structure Interview.Reads (i : Interview) (read lines : List (List UInt8)) : Prop where
  first : read <+: lines
  consumed : i.consumed = read.flatten.length
  asked : i.questions ≤ read.length + 1
  all : ∀ form, i.ending = .endOfInput form → read = lines
  broken : i.ending = .notText → ∃ line ∈ read, answer? line = none

/-- A question that takes a line comes before the others. -/
theorem Interview.Reads.behind {said : List Utterance} (h : i.Reads read lines)
    (hsaid : said.countP Utterance.isQuestion = 1) (line : List UInt8) :
    (i.behind said line.length).Reads (line :: read) (line :: lines) where
  first := (List.prefix_cons_inj line).mpr h.first
  consumed := by
    rw [List.flatten_cons, List.length_append, ← h.consumed]
    rfl
  asked := by
    have hasked := h.asked
    rw [Interview.questions] at hasked ⊢
    rw [Interview.behind, List.countP_append, hsaid, List.length_cons]
    omega
  all form hend := congrArg (line :: ·) (h.all form hend)
  broken hend := by
    obtain ⟨broken, hmem, hnone⟩ := h.broken hend
    exact ⟨broken, List.mem_cons_of_mem line hmem, hnone⟩

theorem countP_refused {complaint : Utterance} (h : judge f answer = .refused complaint) :
    [Utterance.question f, complaint].countP Utterance.isQuestion = 1 := by
  rw [judge] at h
  split at h
  · split at h
    · cases h; rfl
    · cases h
  · split at h
    · split at h
      · cases h
      · cases h; rfl
    · cases h

/-- Whatever the lines are, an interview reads the first ones of them. -/
theorem exists_reads (fields : List FieldSpec) (form : Json.Object) (lines : List (List UInt8)) :
    ∃ read, (ask fields form lines).Reads read lines := by
  fun_induction ask fields form lines with
  | case1 lines form => exact ⟨[], List.nil_prefix, rfl, Nat.zero_le _, nofun, nofun⟩
  | case2 f fields form => exact ⟨[], List.nil_prefix, rfl, le_rfl, fun _ _ => rfl, nofun⟩
  | case3 f fields form line ls hanswer =>
    refine ⟨[line], (List.prefix_cons_inj line).mpr List.nil_prefix, ?_, Nat.le_succ 1, nofun,
      fun _ => ⟨line, List.mem_singleton_self line, hanswer⟩⟩
    rw [List.flatten_singleton]
  | case4 f fields form line ls answer _ value hjudge ih =>
    obtain ⟨read, hread⟩ := ih
    exact ⟨line :: read, hread.behind rfl line⟩
  | case5 f fields form line ls answer _ complaint hjudge ih =>
    obtain ⟨read, hread⟩ := ih
    exact ⟨line :: read, hread.behind (countP_refused hjudge) line⟩

/-! ### What is filled in -/

/-- A form that fills in fields, in their order: each with a value of it, or with nothing if the
    field is not required. -/
inductive Fills : List FieldSpec → Json.Object → Prop
  | done : Fills [] []
  | value {f : FieldSpec} {fields : List FieldSpec} {form : Json.Object} {v : String} :
      IsValue f v → Fills fields form → Fills (f :: fields) ((f.id, .string v) :: form)
  | nothing {f : FieldSpec} {fields : List FieldSpec} {form : Json.Object} :
      f.required = false → Fills fields form → Fills (f :: fields) form

namespace Fills

theorem names_sublist (h : Fills fields form) :
    form.names.Sublist (fields.map FieldSpec.id) := by
  induction h with
  | done => exact .slnil
  | value _ _ ih => exact ih.cons_cons _
  | nothing _ _ ih => exact ih.cons _

/-- Every member is a value of a field, under its id. -/
theorem exists_field {name : String} {v : Json} (h : Fills fields form) (hmem : (name, v) ∈ form) :
    ∃ f ∈ fields, f.id = name ∧ ∃ s, v = .string s ∧ IsValue f s := by
  induction h with
  | done => cases hmem
  | @value f fields form s hvalue _ ih =>
    rcases List.mem_cons.mp hmem with h | h
    · cases h
      exact ⟨f, List.mem_cons_self, rfl, s, rfl, hvalue⟩
    · obtain ⟨g, hg, hrest⟩ := ih h
      exact ⟨g, List.mem_cons_of_mem f hg, hrest⟩
  | @nothing f fields form _ _ ih =>
    obtain ⟨g, hg, hrest⟩ := ih hmem
    exact ⟨g, List.mem_cons_of_mem f hg, hrest⟩

/-- A required field is filled in. -/
theorem exists_value (h : Fills fields form) (hmem : f ∈ fields) (hrequired : f.required = true) :
    ∃ s, (f.id, .string s) ∈ form ∧ IsValue f s := by
  induction h with
  | done => cases hmem
  | @value g fields form s hvalue _ ih =>
    rcases List.mem_cons.mp hmem with rfl | h
    · exact ⟨s, List.mem_cons_self, hvalue⟩
    · obtain ⟨s, hs, hrest⟩ := ih h
      exact ⟨s, List.mem_cons_of_mem _ hs, hrest⟩
  | @nothing g fields form hoptional _ ih =>
    rcases List.mem_cons.mp hmem with rfl | h
    · rw [hoptional] at hrequired
      cases hrequired
    · exact ih h

end Fills

/-- What is taken for a field is a value of it, or nothing if the field is not required. -/
theorem taken_cases {value : Option String} (hline : 10 ∉ line.dropLast)
    (hanswer : answer? line = some answer) (h : judge f answer = .taken value) :
    (value = none ∧ f.required = false) ∨ ∃ v, value = some v ∧ IsValue f v := by
  have honeLine := newline_not_mem_answer hline hanswer
  obtain ⟨s, -, rfl⟩ := exists_text_of_answer? hanswer
  have hfilled : String.ofList (trim s) ≠ "" → Text.Filled (String.ofList (trim s)).toList := by
    intro hne
    rw [String.toList_ofList]
    exact ⟨fun hnil => hne (ofList_eq_empty_iff.mpr hnil), Text.trimmed_trim s⟩
  rw [judge] at h
  split at h
  · split at h
    · cases h
    · next hoptional =>
      cases h
      exact .inl ⟨rfl, Bool.eq_false_iff.mpr hoptional⟩
  · next hne =>
    split at h
    · next choices hchoices =>
      split at h
      · next hmem =>
        cases h
        refine .inr ⟨_, rfl, hfilled hne, honeLine, fun choices' hchoices' => ?_⟩
        rw [hchoices] at hchoices'
        cases hchoices'
        exact hmem
      · cases h
    · next hnone =>
      cases h
      refine .inr ⟨_, rfl, hfilled hne, honeLine, fun choices hchoices => ?_⟩
      rw [hnone] at hchoices
      cases hchoices

/-- The form of an interview is what it starts with, and over it what fills in the fields that were
    asked for; these are all of them unless the input ends. -/
theorem exists_fills (fields : List FieldSpec) (form : Json.Object) (lines : List (List UInt8))
    (hlines : ∀ line ∈ lines, 10 ∉ line.dropLast) {result : Json.Object}
    (h : (ask fields form lines).ending.form = .ok result) :
    ∃ asked left filled, fields = asked ++ left ∧ Fills asked filled ∧
      result = Json.Object.overlay form filled ∧
      ((ask fields form lines).ending = .answered result → left = []) := by
  fun_induction ask fields form lines with
  | case1 lines form =>
    cases h
    exact ⟨[], [], [], rfl, .done, rfl, fun _ => rfl⟩
  | case2 f fields form =>
    cases h
    exact ⟨[], f :: fields, [], rfl, .done, rfl, nofun⟩
  | case3 f fields form line ls hanswer => cases h
  | case4 f fields form line ls answer hanswer value hjudge ih =>
    obtain ⟨hline, hrest⟩ := List.forall_mem_cons.mp hlines
    obtain ⟨asked, left, filled, rfl, hfills, rfl, hleft⟩ := ih hrest h
    rcases taken_cases hline hanswer hjudge with ⟨rfl, hoptional⟩ | ⟨v, rfl, hvalue⟩
    · exact ⟨f :: asked, left, filled, rfl, .nothing hoptional hfills, rfl, hleft⟩
    · exact ⟨f :: asked, left, (f.id, .string v) :: filled, rfl, .value hvalue hfills, rfl, hleft⟩
  | case5 f fields form line ls answer _ complaint hjudge ih =>
    exact ih (List.forall_mem_cons.mp hlines).2 h

/-! ### The interview for a template -/

theorem exists_reads_run (t : Template) (input : List UInt8) :
    ∃ read, (run t input).Reads read (byteLines input) := by
  obtain ⟨read, hread⟩ := exists_reads t.fields [] (byteLines input)
  exact ⟨read, hread.first, (Nat.zero_add _).trans hread.consumed, hread.asked, hread.all,
    hread.broken⟩

/-- The form of an interview fills in the first fields of the template, and all of them unless the
    input ends. -/
theorem exists_fills_run {t : Template} (hload : t.IsLoaded) (input : List UInt8)
    (h : (run t input).ending.form = .ok form) :
    ∃ asked left, t.fields = asked ++ left ∧ Fills asked form ∧ form.names.Nodup ∧
      ((run t input).ending = .answered form → left = []) := by
  obtain ⟨asked, left, filled, hfields, hfills, hform, hleft⟩ :=
    exists_fills t.fields [] (byteLines input) (newline_not_mem_dropLast input) h
  have hids := hload.wellFormed.ids
  rw [hfields, List.map_append] at hids
  have hnodup : filled.names.Nodup := hfills.names_sublist.nodup hids.of_append_left
  obtain rfl : form = filled := hform.trans (Json.Object.ofMembers_eq_self hnodup)
  exact ⟨asked, left, hfields, hfills, hnodup, hleft⟩

/-- A form that fills in all fields of a template can be rendered as far as its required fields
    go. -/
theorem Fills.validate_eq_ok {t : Template} (h : Fills t.fields form) (hnodup : form.names.Nodup) :
    t.validate form = .ok () ∧ t.validate (t.values form) = .ok () := by
  have hfilled : ∀ f ∈ t.fields, f.required = true →
      ∃ v, form.get? f.id = some v ∧ isMissing (some v) = false := by
    intro f hf hrequired
    obtain ⟨s, hs, hvalue⟩ := h.exists_value hf hrequired
    exact ⟨.string s, Json.Object.get?_of_mem hnodup hs, hvalue.filled.not_blank⟩
  constructor
  · refine Template.validate_eq_ok_iff.mpr fun f hf hrequired => ?_
    obtain ⟨v, hget, hv⟩ := hfilled f hf hrequired
    rw [hget, hv]
  · refine Template.validate_eq_ok_iff.mpr fun f hf hrequired => ?_
    obtain ⟨v, hget, hv⟩ := hfilled f hf hrequired
    rw [t.get?_values f.id hnodup, hget, Option.some_or, hv]

/-- Whatever is typed into the interview for a template that was loaded, there is at most one
    question for every line and one more, and the lines that are read are the first ones. A form
    that comes of it holds values of fields, in the order of the fields; unless the input was read
    to its end and ended, it holds one for every required field, so that no rendering of it misses
    one. There is a form unless a line that was read is no text. -/
theorem run_fills {t : Template} (hload : t.IsLoaded) (input : List UInt8) :
    (∃ read, read <+: byteLines input ∧
      (run t input).consumed = read.flatten.length ∧
      (run t input).questions ≤ read.length + 1 ∧
      (run t input).questions ≤ (byteLines input).length + 1 ∧
      (∀ form, (run t input).ending = .endOfInput form →
        (run t input).consumed = input.length) ∧
      ∀ e, (run t input).ending.form = .error e →
        e = .io .invalidUtf8 ∧ ∃ line ∈ read, String.fromUTF8? ⟨line.toArray⟩ = none) ∧
    (∀ form, (run t input).ending.form = .ok form →
      form.names.Sublist (t.fields.map FieldSpec.id) ∧
      ∀ name v, (name, v) ∈ form →
        ∃ f ∈ t.fields, f.id = name ∧ ∃ s, v = .string s ∧ IsValue f s) ∧
    ∀ form, (run t input).ending = .answered form →
      (∀ f ∈ t.fields, f.required = true →
        ∃ s, form.get? f.id = some (.string s) ∧ IsValue f s) ∧
      t.validate form = .ok () ∧
      ∀ (r : Renderer) (org : Organization) (u : Usage) (id : String),
        (r.render t ⟨org, form⟩ u).result.outcome ≠ .error (.missingRequiredField id) := by
  refine ⟨?_, ?_, ?_⟩
  · obtain ⟨read, hread⟩ := exists_reads_run t input
    refine ⟨read, hread.first, hread.consumed, hread.asked, ?_, ?_, ?_⟩
    · exact hread.asked.trans (Nat.succ_le_succ hread.first.length_le)
    · intro form hend
      rw [hread.consumed, hread.all form hend, flatten_byteLines]
    · intro e he
      cases hend : (run t input).ending with
      | answered form => rw [hend] at he; cases he
      | endOfInput form => rw [hend] at he; cases he
      | notText =>
        rw [hend] at he
        cases he
        obtain ⟨line, hmem, hline⟩ := hread.broken hend
        exact ⟨rfl, line, hmem, Option.map_eq_none_iff.mp hline⟩
  · intro form hform
    obtain ⟨asked, left, hfields, hfills, -, -⟩ := exists_fills_run hload input hform
    rw [hfields, List.map_append]
    refine ⟨hfills.names_sublist.trans (List.sublist_append_left _ _), fun name v hmem => ?_⟩
    obtain ⟨f, hf, hrest⟩ := hfills.exists_field hmem
    exact ⟨f, List.mem_append_left left hf, hrest⟩
  · intro form hend
    have hform : (run t input).ending.form = .ok form := by rw [hend]; rfl
    obtain ⟨asked, left, hfields, hfills, hnodup, hleft⟩ := exists_fills_run hload input hform
    rw [hleft hend, List.append_nil] at hfields
    rw [← hfields] at hfills
    obtain ⟨hvalid, hvalues⟩ := hfills.validate_eq_ok hnodup
    refine ⟨fun f hf hrequired => ?_, hvalid, fun r org u id => ?_⟩
    · obtain ⟨s, hs, hvalue⟩ := hfills.exists_value hf hrequired
      exact ⟨s, Json.Object.get?_of_mem hnodup hs, hvalue⟩
    · exact Renderer.outcome_ne_missingRequiredField hvalues id

/-- Five lines answer the questions for a name and a choice; no more than six are asked. -/
theorem run_fills_specimen : ∃ t, t.IsLoaded ∧
    (run t (bytes (Specimen.typed.flatMap Text.lineOf))).questions ≤ 6 ∧
    (run t (bytes (Specimen.typed.flatMap Text.lineOf))).ending =
      .answered [("name", .string "Ada"), ("pep", .string "no")] ∧
    t.validate [("name", .string "Ada"), ("pep", .string "no")] = .ok () := by
  have hread : (Template.load .wpml Specimen.text).outcome.toOption.map (fun t => t.fields) =
      some Specimen.asked := by decide +kernel
  obtain ⟨t, ht, hfields⟩ := Option.map_eq_some_iff.mp hread
  have hload : t.IsLoaded := .inl ⟨.wpml, Specimen.text, toOption_eq_some_iff.mp ht⟩
  have hend : (run t (bytes (Specimen.typed.flatMap Text.lineOf))).ending =
      .answered [("name", .string "Ada"), ("pep", .string "no")] := by
    obtain ⟨said, hsaid⟩ := Specimen.offers.exists_said Specimen.admissible []
    have hall := hsaid []
    rw [List.append_nil, ← hfields] at hall
    rw [run, Interview.behind, hall, hfields]
    rfl
  have hlines : (byteLines (bytes (Specimen.typed.flatMap Text.lineOf))).length = 5 := by
    rw [Text.bytes_eq_flatMap]
    decide
  obtain ⟨⟨_, _, _, _, hquestions, _⟩, _, hanswered⟩ :=
    run_fills hload (bytes (Specimen.typed.flatMap Text.lineOf))
  rw [hlines] at hquestions
  exact ⟨t, hload, hquestions, hend, (hanswered _ hend).2.1⟩

end Issuance.Prompt

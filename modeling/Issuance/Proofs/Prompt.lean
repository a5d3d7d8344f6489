import Issuance.Prompt
import Issuance.Proofs.Catalog.Insertion
import Issuance.Proofs.Text.Bytes
import Issuance.Proofs.Text.Lines

/-! # Answers that are read back

    Whoever knows what a form shall hold can answer the questions so that it comes to hold that. The
    answers may be padded, and wrong ones may come first, as many as one likes: each line is either
    refused, and then the same field is asked for again, or it is taken, and then the next field
    comes. So a run through the lines follows the way in which they are offered, and it ends with
    the last of them, whatever bytes follow. -/

namespace Issuance

/-- A template that was loaded from anything: a text in any format, or a JSON value. -/
def Template.IsLoaded (t : Template) : Prop :=
  (∃ format text, (load format text).outcome = .ok t) ∨ ∃ raw, (Source.wpm raw).load = .ok t

theorem Template.IsLoaded.wellFormed {t : Template} (h : t.IsLoaded) : t.WellFormed := by
  rcases h with ⟨format, text, h⟩ | ⟨raw, h⟩
  · cases format with
    | wpml => exact (Source.assures_of_load (s := .wpml text) h).wellFormed
    | wpt => exact (Source.assures_of_load (s := .wpt text) h).wellFormed
    | wpm =>
      obtain ⟨raw, -, -, hraw⟩ := Source.exists_raw_of_load h
      exact (Source.assures_of_load hraw).wellFormed
  · exact (Source.assures_of_load h).wellFormed

namespace Prompt

open Text (allBlank bytes lineOf trim)

variable {f : FieldSpec} {fields : List FieldSpec} {given : String → Option String}
  {line : List Char} {lines : List (List Char)}

/-! ### What is offered -/

/-- A value that a field can be given: it says something, without white space around it, stands on
    one line, and is one of the choices if there are any. -/
structure IsValue (f : FieldSpec) (v : String) : Prop where
  filled : Text.Filled v.toList
  oneLine : '\n' ∉ v.toList
  chosen : ∀ choices, f.values = some choices → v ∈ choices

/-- What is given for the fields, by their ids, if every required field is given something. -/
structure Admissible (given : String → Option String) (fields : List FieldSpec) : Prop where
  required : ∀ f ∈ fields, f.required = true → given f.id ≠ none
  isValue : ∀ f ∈ fields, ∀ v, given f.id = some v → IsValue f v

/-- The form that holds what is given, in the order of the fields. -/
def answers (given : String → Option String) (fields : List FieldSpec) : Json.Object :=
  fields.filterMap fun f => (given f.id).map fun v => (f.id, .string v)

/-- A line that a field refuses: a blank one if the field is required, and one that says something
    else than the choices if there are any. -/
def Refuses (f : FieldSpec) (line : List Char) : Prop :=
  (f.required = true ∧ allBlank line = true) ∨
    ∃ choices, f.values = some choices ∧ allBlank line = false ∧
      String.ofList (trim line) ∉ choices

/-- A line that gives a value between white space, or a blank one that gives nothing. -/
inductive Gives : Option String → List Char → Prop
  | value {v : String} {w w' : List Char} : allBlank w = true → allBlank w' = true →
      Gives (some v) (w ++ (v.toList ++ w'))
  | nothing {w : List Char} : allBlank w = true → Gives none w

/-- Lines that offer what is given, field by field: for each field, any number of lines that it
    refuses, and then one that gives what is given for it. -/
inductive Offers (given : String → Option String) : List FieldSpec → List (List Char) → Prop
  | done : Offers given [] []
  | refused {f : FieldSpec} {fields : List FieldSpec} {line : List Char}
      {lines : List (List Char)} (hline : '\n' ∉ line) (hrefuses : Refuses f line)
      (hrest : Offers given (f :: fields) lines) : Offers given (f :: fields) (line :: lines)
  | taken {f : FieldSpec} {fields : List FieldSpec} {line : List Char}
      {lines : List (List Char)} (hline : '\n' ∉ line) (hgives : Gives (given f.id) line)
      (hrest : Offers given fields lines) : Offers given (f :: fields) (line :: lines)

/-- The lines that say what is given and nothing else. -/
def plainLines (given : String → Option String) (fields : List FieldSpec) : List (List Char) :=
  fields.map fun f => ((given f.id).getD "").toList

theorem Admissible.tail (h : Admissible given (f :: fields)) : Admissible given fields :=
  ⟨fun g hg => h.required g (List.mem_cons_of_mem f hg),
    fun g hg => h.isValue g (List.mem_cons_of_mem f hg)⟩

/-- Whatever is admissible can be offered. -/
theorem offers_plainLines : ∀ {fields : List FieldSpec}, Admissible given fields →
    Offers given fields (plainLines given fields)
  | [], _ => .done
  | f :: fields, h => by
    have hrest := offers_plainLines h.tail
    cases hf : given f.id with
    | none =>
      have hline : Gives (given f.id) "".toList := hf ▸ .nothing rfl
      rw [plainLines, List.map_cons, hf]
      exact .taken List.not_mem_nil hline hrest
    | some v =>
      have hline : Gives (given f.id) v.toList := by
        have hgives := Gives.value (v := v) Text.allBlank_nil Text.allBlank_nil
        rwa [List.nil_append, List.append_nil, ← hf] at hgives
      rw [plainLines, List.map_cons, hf]
      exact .taken (h.isValue f List.mem_cons_self v hf).oneLine hline hrest

/-! ### The lines of an input -/

theorem byteLines_append_cons (rest : List UInt8) : ∀ {bs : List UInt8}, 10 ∉ bs →
    byteLines (bs ++ 10 :: rest) = (bs ++ [10]) :: byteLines rest
  | [], _ => rfl
  | b :: bs, h => by
    rw [List.mem_cons, not_or] at h
    rw [List.cons_append, byteLines, if_neg (Ne.symm h.1), byteLines_append_cons rest h.2]
    rfl

theorem bytes_lineOf (line : List Char) : bytes (lineOf line) = bytes line ++ [10] :=
  Text.bytes_append line ['\n']

/-- A line of a text is a line of its bytes, whatever bytes follow. -/
theorem byteLines_lineOf (h : '\n' ∉ line) (rest : List UInt8) :
    byteLines (bytes (lineOf line) ++ rest) = bytes (lineOf line) :: byteLines rest := by
  rw [bytes_lineOf, List.append_assoc, List.singleton_append]
  exact byteLines_append_cons rest (Text.newline_not_mem_bytes h)

theorem answer?_lineOf (line : List Char) :
    answer? (bytes (lineOf line)) = some (String.ofList (trim line)) := by
  have hnewline : allBlank ['\n'] = true := by decide
  rw [answer?, Text.fromUTF8?_bytes, Option.map_some, String.toList_ofList, lineOf,
    Text.trim_append_right hnewline]

/-! ### Single answers -/

theorem ofList_eq_empty_iff {s : List Char} : String.ofList s = "" ↔ s = [] := by
  rw [← String.ofList_nil, String.ofList_inj]

/-- A line that a field refuses is answered with a complaint. -/
theorem Refuses.exists_complaint (h : Refuses f line) :
    ∃ complaint, judge f (String.ofList (trim line)) = .refused complaint := by
  rcases h with ⟨hrequired, hblank⟩ | ⟨choices, hvalues, hblank, hchoices⟩
  · refine ⟨.mustNotBeBlank f.label, ?_⟩
    rw [judge, if_pos (ofList_eq_empty_iff.mpr (Text.trim_eq_nil_iff.mpr hblank)),
      if_pos hrequired]
  · have hfilled : String.ofList (trim line) ≠ "" := fun hempty =>
      (Text.filled_trim hblank).1 (ofList_eq_empty_iff.mp hempty)
    refine ⟨.allowed choices, ?_⟩
    rw [judge, if_neg hfilled, hvalues]
    exact if_neg hchoices

/-- A line that gives what is given for a field is taken for it. -/
theorem Gives.judge_eq (h : Gives (given f.id) line) (hgiven : Admissible given (f :: fields)) :
    judge f (String.ofList (trim line)) = .taken (given f.id) := by
  cases hf : given f.id with
  | none =>
    rw [hf] at h
    cases h with
    | nothing hblank =>
      have hoptional : ¬ f.required = true := fun hrequired =>
        hgiven.required f List.mem_cons_self hrequired hf
      rw [judge, if_pos (ofList_eq_empty_iff.mpr (Text.trim_eq_nil_iff.mpr hblank)),
        if_neg hoptional]
  | some v =>
    obtain ⟨hfilled, -, hchosen⟩ := hgiven.isValue f List.mem_cons_self v hf
    rw [hf] at h
    cases h with
    | value hw hw' =>
      have hv : v ≠ "" := by
        rintro rfl
        exact hfilled.1 rfl
      rw [Text.trim_between hw hfilled.2 hw', String.ofList_toList, judge, if_neg hv]
      cases hvalues : f.values with
      | none => rfl
      | some choices => exact if_pos (hchosen choices hvalues)

/-! ### The interview -/

section
variable (form : Json.Object) (rest : List (List UInt8))

/-- After a line that a field refuses, the field is asked for again. -/
theorem ask_refused {complaint : Utterance}
    (h : judge f (String.ofList (trim line)) = .refused complaint) :
    ask (f :: fields) form (bytes (lineOf line) :: rest) =
      (ask (f :: fields) form rest).behind [.question f, complaint]
        (bytes (lineOf line)).length := by
  rw [ask, answer?_lineOf]
  simp only [h]

/-- After a line that is taken for a field, the next one is asked for. -/
theorem ask_taken {value : Option String}
    (h : judge f (String.ofList (trim line)) = .taken value) :
    ask (f :: fields) form (bytes (lineOf line) :: rest) =
      (ask fields (record f form value) rest).behind [.question f]
        (bytes (lineOf line)).length := by
  rw [ask, answer?_lineOf]
  simp only [h]

end

theorem overlay_answers (form : Json.Object) (f : FieldSpec) (fields : List FieldSpec) :
    Json.Object.overlay (record f form (given f.id)) (answers given fields) =
      Json.Object.overlay form (answers given (f :: fields)) := by
  rw [answers, answers, List.filterMap_cons]
  cases given f.id with
  | none => rfl
  | some v => rfl

/-- Lines that offer what is given are read to their end and no further, and the form then holds
    what is given; what is said is the same whatever bytes follow. -/
theorem Offers.exists_said (h : Offers given fields lines) (hgiven : Admissible given fields) :
    ∀ form, ∃ said, ∀ rest,
      ask fields form (byteLines (bytes (lines.flatMap lineOf) ++ rest)) =
        ⟨said, (bytes (lines.flatMap lineOf)).length,
          .answered (Json.Object.overlay form (answers given fields))⟩ := by
  -- by induction on how the lines are offered: over the fields, and over the refused lines of each
  induction h with
  | done =>
    intro form
    exact ⟨[], fun rest => by rw [ask]; rfl⟩
  | @refused f fields line lines hline hrefuses _ ih =>
    intro form
    obtain ⟨said, hsaid⟩ := ih hgiven form
    obtain ⟨complaint, hjudge⟩ := hrefuses.exists_complaint
    refine ⟨[.question f, complaint] ++ said, fun rest => ?_⟩
    rw [List.flatMap_cons, Text.bytes_append, List.append_assoc, byteLines_lineOf hline,
      ask_refused form _ hjudge, hsaid, Interview.behind, List.length_append]
  | @taken f fields line lines hline hgives _ ih =>
    intro form
    obtain ⟨said, hsaid⟩ := ih hgiven.tail (record f form (given f.id))
    have hjudge := hgives.judge_eq hgiven
    refine ⟨[.question f] ++ said, fun rest => ?_⟩
    rw [List.flatMap_cons, Text.bytes_append, List.append_assoc, byteLines_lineOf hline,
      ask_taken form _ hjudge, hsaid, Interview.behind, List.length_append, overlay_answers]

theorem names_answers_sublist (given : String → Option String) : ∀ fields : List FieldSpec,
    ((answers given fields).names).Sublist (fields.map FieldSpec.id)
  | [] => .slnil
  | f :: fields => by
    have hrest := names_answers_sublist given fields
    rw [answers, List.filterMap_cons, List.map_cons]
    cases given f.id with
    | none => exact hrest.cons f.id
    | some v => exact hrest.cons_cons f.id

/-- Whatever is admissible can be offered to the interview for a template that was loaded; and
    however it is offered, the form is what is given, in the order of the fields, no more is read
    than the lines that offer it, and what is said does not depend on the bytes that follow. -/
theorem run_offered {t : Template} (hload : t.IsLoaded) (hgiven : Admissible given t.fields) :
    Offers given t.fields (plainLines given t.fields) ∧
      ∀ lines, Offers given t.fields lines → ∃ said, ∀ rest,
        run t (bytes (lines.flatMap lineOf) ++ rest) =
          ⟨said, (bytes (lines.flatMap lineOf)).length, .answered (answers given t.fields)⟩ := by
  refine ⟨offers_plainLines hgiven, fun lines hlines => ?_⟩
  obtain ⟨said, hsaid⟩ := hlines.exists_said hgiven []
  have hnames : (answers given t.fields).names.Nodup :=
    (names_answers_sublist given t.fields).nodup hload.wellFormed.ids
  have hform : Json.Object.overlay [] (answers given t.fields) = answers given t.fields :=
    Json.Object.ofMembers_eq_self hnames
  refine ⟨[.heading t.name t.key] ++ said, fun rest => ?_⟩
  rw [run, hsaid, hform, Interview.behind, Nat.zero_add]

/-! ### An interview to look at -/

namespace Specimen

/-- A template with a required field, an optional one and one with choices. -/
def text : List Char :=
  Text.joinLines <| ["@key: card", "@name: Card", "[fields]", "name:text:Name:required",
    "dept:text:Dept", "pep:select:PEP,values=no|yes", "[body]", r"{}"].map String.toList

/-- The fields of the template. -/
def asked : List FieldSpec :=
  [{ id := "name", type := .text, label := "Name", required := true },
    { id := "dept", type := .text, label := "Dept" },
    { id := "pep", type := .select, label := "PEP", values := some ["no", "yes"] }]

/-- A name and a choice, and nothing for the department. -/
def told (id : String) : Option String :=
  if id = "name" then some "Ada" else if id = "pep" then some "no" else none

/-- The name after a blank line, and the choice after something else. -/
def typed : List (List Char) := [" ", " Ada\r", "", "maybe", "no"].map String.toList

theorem admissible : Admissible told asked := by
  refine ⟨by decide, List.forall_mem_cons.mpr ⟨?_, List.forall_mem_cons.mpr ⟨?_,
    List.forall_mem_singleton.mpr ?_⟩⟩⟩
  · rintro _ ⟨⟩
    exact ⟨⟨by decide, rfl⟩, by decide, fun _ h => by cases h⟩
  · rintro _ ⟨⟩
  · rintro _ ⟨⟩
    exact ⟨⟨by decide, rfl⟩, by decide, fun _ h => by cases h; decide⟩

theorem offers : Offers told asked typed := by
  have hname : Gives (some "Ada") " Ada\r".toList :=
    .value (w := [' ']) rfl (rfl : allBlank ['\r'] = true)
  have hpep : Gives (some "no") "no".toList := .value Text.allBlank_nil Text.allBlank_nil
  refine .refused (by decide) (.inl ⟨rfl, rfl⟩) ?_
  refine .taken (by decide) hname ?_
  refine .taken (by decide) (.nothing rfl) ?_
  refine .refused (by decide) (.inr ⟨_, rfl, rfl, by decide⟩) ?_
  exact .taken (by decide) hpep .done

end Specimen

/-- The form holds the name and the choice, and no more is read than the five lines. -/
theorem run_offered_specimen : ∃ t said, t.IsLoaded ∧ Admissible Specimen.told t.fields ∧
    Offers Specimen.told t.fields Specimen.typed ∧ ∀ rest,
      run t (bytes (Specimen.typed.flatMap lineOf) ++ rest) =
        ⟨said, 18, .answered [("name", .string "Ada"), ("pep", .string "no")]⟩ := by
  have hread : (Template.load .wpml Specimen.text).outcome.toOption.map (fun t => t.fields) =
      some Specimen.asked := by decide +kernel
  obtain ⟨t, ht, hfields⟩ := Option.map_eq_some_iff.mp hread
  have hload : t.IsLoaded := .inl ⟨.wpml, Specimen.text, toOption_eq_some_iff.mp ht⟩
  have hgiven : Admissible Specimen.told t.fields := hfields ▸ Specimen.admissible
  have hlines : Offers Specimen.told t.fields Specimen.typed := hfields ▸ Specimen.offers
  obtain ⟨said, hsaid⟩ := (run_offered hload hgiven).2 Specimen.typed hlines
  refine ⟨t, said, hload, hgiven, hlines, fun rest => ?_⟩
  have hlength : (bytes (Specimen.typed.flatMap lineOf)).length = 18 := by
    rw [Text.bytes_eq_flatMap]
    decide
  rw [hsaid, hfields, hlength]
  rfl

end Prompt
end Issuance

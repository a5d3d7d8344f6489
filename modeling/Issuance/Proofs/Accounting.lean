import Issuance.Proofs.Credential.Consumption
import Issuance.Proofs.Placeholder.Records
import Issuance.Proofs.Template.FieldRecords

/-! # What is passed over, and its records

    Field lines that make no field are passed over when a text is loaded, and placeholders without a
    value when a skeleton is filled. Neither is an error, but each of them leaves one record in the
    trace, in the order of the text, and nothing else leaves such a record. -/

namespace Issuance

open Placeholder (Recorded fillAll fillBuiltins recordsOf)

variable {r : Renderer} {q : Request} {u : Usage}

/-- The records about placeholders in the trace of a rendering are those of filling its skeleton. -/
theorem Renderer.filter_isOfPlaceholder_answer (h : q.check = .ok ()) :
    (r.answer q u).result.trace.filter Event.isOfPlaceholder =
      recordsOf q.template.grammar (r.builtins u) (q.template.scope q.context)
        q.template.source := by
  have hself : (q.template.missingRecords (r.builtins u) q.context).filter
      Event.isOfPlaceholder = q.template.missingRecords (r.builtins u) q.context :=
    List.filter_eq_self.mpr fun e he => (Placeholder.of_mem_recordsOf he).1
  cases hbody : r.parsed q u with
  | error e =>
    rw [answer_of_parsed_error h hbody]
    exact hself
  | ok body =>
    rw [answer_of_parsed h hbody]
    change (q.template.missingRecords (r.builtins u) q.context ++
      [Event.rendered q.template.key]).filter Event.isOfPlaceholder = _
    rw [List.filter_append, hself]
    exact List.append_nil _

/-- Of a text that gives a template, every line of the fields becomes one field of the template or
    one record with its number, in the order of the lines. When a text is filled, every placeholder
    that is left once the reserved ones are filled gives way to its value or leaves one record, in
    the order of the text; these are the records about placeholders in the trace of a rendering that
    has its required values. All of them are records for debugging. -/
theorem passed_over_recorded (text : List Char) (g : Placeholder.Grammar)
    (escaping : Placeholder.Escaping) (b : Placeholder.Builtins) (scope : Json.Object)
    (content : List Char) (r : Renderer) (q : Request) (u : Usage) :
    (∀ t, (Template.load .wpml text).outcome = .ok t →
      ∃ rs, (∀ rs', Wpml.Accounted [] (Wpml.numberedIn .fields text) rs' ↔ rs' = rs) ∧
        t.fields = rs.filterMap Wpml.Reading.field? ∧
        (Template.load .wpml text).trace.filter Event.isOfFieldLine =
          rs.filterMap Wpml.Reading.record? ∧
        ∀ e ∈ rs.filterMap Wpml.Reading.record?, e.level = .debug) ∧
    (∀ out es, Recorded g escaping scope (fillBuiltins b content) out es ↔
      out = fillAll g escaping b scope content ∧ es = recordsOf g b scope content) ∧
    (∀ e ∈ recordsOf g b scope content, e.level = .debug) ∧
    (q.check = .ok () → ∀ out es,
      Recorded q.template.grammar r.escaping (q.template.scope q.context)
        (fillBuiltins (r.builtins u) q.template.source) out es →
      out = q.template.filled r.escaping (r.builtins u) q.context ∧
        (r.answer q u).result.trace.filter Event.isOfPlaceholder = es) := by
  refine ⟨fun t ht => ?_, fun out es => Placeholder.recorded_iff, fun e he => ?_,
    fun hcheck out es h => ?_⟩
  · have hfields := Wpml.fields_of_template (refuse_eq_ok_iff.mp ht)
    refine ⟨Wpml.readings text, fun rs' => Wpml.accounted_iff_eq_readings, hfields,
      Wpml.filter_isOfFieldLine_records text, fun e he => ?_⟩
    exact ((Wpml.accounted_iff_eq_readings.mpr rfl).of_record he).2
  · exact (Placeholder.of_mem_recordsOf he).2
  · obtain ⟨rfl, rfl⟩ := Placeholder.recorded_iff.mp h
    exact ⟨rfl, Renderer.filter_isOfPlaceholder_answer hcheck⟩

/-- A text with blank lines, a field line without colons and one that repeats an id. -/
def Wpml.untidy : List Char :=
  Text.joinLines <| ["@key: card", "@name: Card", "", "[fields]", "", "name:text:Name", "oops",
    "[body]", r"{}", "[fields]", "name:date:Again"].map String.toList

/-- A request whose skeleton asks for a value that is null and for one that is not there. -/
def Request.unvalued : Request :=
  ⟨Specimen.template (.text r"{{name}}{{age}}{{nick}}"),
    ⟨Specimen.context.org, [("name", .string "Eve"), ("nick", .null)]⟩⟩

/-- The records name the seventh and the eleventh line, and the path without a value. -/
theorem passed_over_recorded_specimen :
    (∃ t, (Template.load .wpml Wpml.untidy).outcome = .ok t ∧
      t.fields = [{ id := "name", type := .text, label := "Name", required := false }] ∧
      (Template.load .wpml Wpml.untidy).trace.filter Event.isOfFieldLine =
        [.malformedField 7 "oops", .repeatedField "name" 11]) ∧
    Request.unvalued.check = .ok () ∧
      (Renderer.standing.answer Request.unvalued {}).result.trace.filter Event.isOfPlaceholder =
        [.noValue "age"] := by
  have hcheck : Request.unvalued.check = .ok () := rfl
  obtain ⟨hload, hwalk, -, hanswer⟩ := passed_over_recorded Wpml.untidy
    Request.unvalued.template.grammar .verbatim (Renderer.standing.builtins {})
    (Request.unvalued.template.scope Request.unvalued.context) Request.unvalued.template.source
    Renderer.standing Request.unvalued {}
  have hlines : Wpml.numberedIn .fields Wpml.untidy =
      [⟨.fields, 6, "name:text:Name".toList⟩, ⟨.fields, 7, "oops".toList⟩,
        ⟨.fields, 11, "name:date:Again".toList⟩] := by decide +kernel
  have hoops : Wpml.field? "oops".toList = none := by decide +kernel
  have hfirst : Wpml.field? "name:text:Name".toList =
      some { id := "name", type := .text, label := "Name", required := false } := by decide +kernel
  have hagain : Wpml.field? "name:date:Again".toList =
      some { id := "name", type := .date, label := "Again", required := false } := by decide +kernel
  refine ⟨?_, hcheck, ?_⟩
  · obtain ⟨t, ht⟩ : ∃ t, Wpml.template Wpml.untidy = .ok t :=
      ⟨_, Wpml.template_eq_ok_iff.mpr
        ⟨"card", "Card", by decide +kernel, by decide +kernel, by decide +kernel, rfl⟩⟩
    have houtcome := refuse_eq_ok_iff.mpr ht
    obtain ⟨rs, haccounted, hfields, hrecords, -⟩ := hload t houtcome
    rw [hlines] at haccounted
    obtain rfl := (haccounted _).mp <| .cons (.field hfirst (by simp)) <|
      .cons (.malformed (Wpml.field?_eq_none_iff.mp hoops)) <|
        .cons (.repeated hagain ⟨_, List.mem_cons_self, _, hfirst, rfl⟩) .nil
    exact ⟨t, houtcome, hfields, hrecords⟩
  · have hmissing : Placeholder.missing Request.unvalued.template.grammar
        (Renderer.standing.builtins {}) (Request.unvalued.template.scope Request.unvalued.context)
        Request.unvalued.template.source = ["age".toList] := by decide +kernel
    refine (hanswer hcheck _ _ ((hwalk _ _).mpr ⟨rfl, rfl⟩)).2.trans ?_
    rw [recordsOf, hmissing]
    rfl

end Issuance

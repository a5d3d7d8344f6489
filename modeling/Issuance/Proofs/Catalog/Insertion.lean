import Issuance.Catalog.Basic
import Issuance.Proofs.Template.Invariant
import Issuance.Proofs.Traced

/-! # Templates in a catalog

    A catalog is filled by loading sources and inserting what comes of them. A source that is no
    template and a template whose key is taken leave it as it was, so after any run of insertions it
    holds templates that were loaded and nothing else: what loading assures of a template holds of
    every template in it. -/

namespace Issuance

/-! ### Sources -/

namespace Template

/-- What a template is loaded from: a text in one of two formats, or a JSON value. -/
inductive Source where
  | wpml (text : List Char)
  | wpt (text : List Char)
  | wpm (raw : Json)

namespace Source

/-- Loads a template. -/
def load : Source → Except Error Template
  | .wpml text => (Template.load .wpml text).outcome
  | .wpt text => (Template.load .wpt text).outcome
  | .wpm raw => refuse (Wpm.template raw)

/-- Whether a source is a text. -/
def IsText : Source → Prop
  | .wpm _ => False
  | _ => True

/-- A source that, if it is a value, repeats no name; no value does that is read from a text. -/
def Distinct : Source → Prop
  | .wpm raw => raw.Distinct
  | _ => True

/-- What loading assures of a template: it is well-formed, and tidy if it comes from a text; and if
    it has an object for its skeleton, the object repeats no name unless the source does. -/
structure Assures (s : Source) (t : Template) : Prop where
  wellFormed : t.WellFormed
  tidy : s.IsText → t.Tidy
  distinct : s.Distinct → ∀ members, t.skeleton = .object members → (Json.object members).Distinct

theorem assures_of_load {s : Source} {t : Template} (h : s.load = .ok t) : s.Assures t := by
  cases s with
  | wpml text =>
    have ht : Wpml.template text = .ok t := refuse_eq_ok_iff.mp h
    obtain ⟨htidy, hformed⟩ := Wpml.tidy_and_wellFormed ht
    refine ⟨hformed, fun _ => htidy, fun _ members hmembers => ?_⟩
    rw [(Wpml.describes_of_template ht).skeleton] at hmembers
    cases hmembers
  | wpt text =>
    have ht : Wpt.template text = .ok t := refuse_eq_ok_iff.mp h
    obtain ⟨htidy, hformed⟩ := Wpt.tidy_and_wellFormed ht
    exact ⟨hformed, fun _ => htidy, fun _ _ hmembers => Wpt.distinct_skeleton ht hmembers⟩
  | wpm raw =>
    have ht : Wpm.template raw = .ok t := refuse_eq_ok_iff.mp h
    refine ⟨(Wpm.wellFormed_and_skeleton ht).1, False.elim, ?_⟩
    exact fun hraw _ hmembers => Wpm.distinct_skeleton hraw ht hmembers

/-- A JSON text is loaded as the value that it is, which repeats no name. -/
theorem exists_raw_of_load {text : List Char} {t : Template}
    (h : (Template.load .wpm text).outcome = .ok t) :
    ∃ raw, Json.parse text = .ok raw ∧ raw.Distinct ∧ (wpm raw).load = .ok t := by
  change (demand (Json.parse text)).bind (fun raw => refuse (Wpm.template raw)) = .ok t at h
  cases hparse : Json.parse text with
  | error d => rw [hparse] at h; cases h
  | ok raw =>
    rw [hparse] at h
    obtain ⟨written, -, -, rfl⟩ := Json.parse_eq_ok_iff.mp hparse
    exact ⟨_, rfl, Json.distinct_merged written, h⟩

end Source
end Template

/-! ### Runs of insertions -/

namespace Catalog

/-- The catalog after a template is offered to it. -/
def offer (c : Catalog) (t : Template) : Catalog :=
  match c.insert t with
  | .ok c' => c'
  | .error _ => c

/-- The catalog after a source is loaded and what comes of it is offered. -/
def take (c : Catalog) (s : Template.Source) : Catalog :=
  match s.load with
  | .ok t => c.offer t
  | .error _ => c

/-- The catalog after sources are taken one after the other. -/
def takeAll (c : Catalog) (sources : List Template.Source) : Catalog := sources.foldl take c

variable {c : Catalog} {t : Template}

/-- A template that is offered stands at the end, or the catalog is what it was. -/
theorem offer_eq_or (c : Catalog) (t : Template) :
    c.offer t = ⟨c.templates ++ [t]⟩ ∨ c.offer t = c := by
  rw [offer, insert]
  split_ifs
  · exact .inr rfl
  · exact .inl rfl

theorem mem_take {s : Template.Source} (h : t ∈ (c.take s).templates) :
    t ∈ c.templates ∨ s.load = .ok t := by
  rw [take] at h
  split at h
  · next t' hload =>
    rcases c.offer_eq_or t' with hoffer | hoffer <;> rw [hoffer] at h
    · rcases List.mem_append.mp h with h | h
      · exact .inl h
      · exact .inr (List.mem_singleton.mp h ▸ hload)
    · exact .inl h
  · exact .inl h

/-- After a run of insertions a catalog holds what it held, and what was loaded in the run. -/
theorem mem_takeAll : ∀ {sources : List Template.Source} {c : Catalog},
    t ∈ (c.takeAll sources).templates → t ∈ c.templates ∨ ∃ s ∈ sources, s.load = .ok t
  | [], _, h => .inl h
  | s :: rest, c, h => by
    rcases mem_takeAll (c := c.take s) h with h | ⟨s', hs', hload⟩
    · rcases mem_take h with h | hload
      · exact .inl h
      · exact .inr ⟨s, List.mem_cons_self, hload⟩
    · exact .inr ⟨s', List.mem_cons_of_mem s hs', hload⟩

theorem mem_offer (h : t ∈ c.templates) (t' : Template) : t ∈ (c.offer t').templates := by
  rcases c.offer_eq_or t' with hoffer | hoffer <;> rw [hoffer]
  · exact List.mem_append_left _ h
  · exact h

theorem mem_take_of_mem (h : t ∈ c.templates) (s : Template.Source) :
    t ∈ (c.take s).templates := by
  rw [take]
  split
  · exact mem_offer h _
  · exact h

/-- A template that a catalog holds stays in it. -/
theorem mem_takeAll_of_mem : ∀ {c : Catalog} (sources : List Template.Source),
    t ∈ c.templates → t ∈ (c.takeAll sources).templates
  | _, [], h => h
  | _, s :: rest, h => mem_takeAll_of_mem rest (mem_take_of_mem h s)

/-! ### The catalog of the presets -/

/-- The presets as sources. -/
def presetSources : List Template.Source := Preset.all.map fun text => .wpml text.toList

theorem take_of_insert {s : Template.Source} {c' : Catalog} (hload : s.load = .ok t)
    (hinsert : c.insert t = .ok c') : c.take s = c' := by
  rw [take, hload]
  dsimp only
  rw [offer, hinsert]

/-- Texts that are all loaded and inserted are taken one after the other. -/
theorem takeAll_of_loadAll : ∀ {texts : List String} {ts : List Template} {c c' : Catalog},
    (loadAll texts).outcome = .ok ts → c.insertAll ts = .ok c' →
      c.takeAll (texts.map fun text => .wpml text.toList) = c'
  | [], ts, c, c', hload, hinsert => by
    cases hload
    cases hinsert
    rfl
  | text :: rest, ts, c, c', hload, hinsert => by
    rw [loadAll] at hload
    obtain ⟨t, ht, hload⟩ := Traced.outcome_bind_eq_ok_iff.mp hload
    obtain ⟨others, hothers, hload⟩ := Traced.outcome_bind_eq_ok_iff.mp hload
    cases hload
    rw [insertAll] at hinsert
    cases hnext : c.insert t with
    | error e => rw [hnext] at hinsert; cases hinsert
    | ok next =>
      rw [hnext] at hinsert
      have htake : c.take (.wpml text.toList) = next := take_of_insert ht hnext
      change (c.take (.wpml text.toList)).takeAll _ = c'
      rw [htake]
      exact takeAll_of_loadAll hothers hinsert

theorem builtin_eq_takeAll (h : builtin.outcome = .ok c) : c = empty.takeAll presetSources := by
  obtain ⟨ts, hload, hinsert⟩ := Traced.outcome_bind_eq_ok_iff.mp h
  exact (takeAll_of_loadAll hload hinsert).symm

end Catalog

/-! ### Every template -/

/-- A template of the presets is one that was loaded from the text of one. -/
theorem Catalog.exists_source_of_mem_builtin {c : Catalog} {t : Template}
    (h : builtin.outcome = .ok c) (ht : t ∈ c.templates) :
    ∃ s ∈ presetSources, s.load = .ok t ∧ s.Assures t := by
  rw [builtin_eq_takeAll h] at ht
  rcases mem_takeAll ht with hnil | ⟨s, hs, hload⟩
  · cases hnil
  · exact ⟨s, hs, hload, Template.Source.assures_of_load hload⟩

/-- Every template that is loaded from anything is well-formed, and tidy if it comes from a text; a
    text in the object format is the value that it reads as. So is every template that a run of
    insertions adds to a catalog. -/
theorem Template.wellFormed_of_load :
    (∀ (s : Source) (t : Template), s.load = .ok t → s.Assures t) ∧
    (∀ (text : List Char) (t : Template), (load .wpm text).outcome = .ok t →
      ∃ raw, Json.parse text = .ok raw ∧ (Source.wpm raw).Distinct ∧
        (Source.wpm raw).load = .ok t) ∧
    (∀ (c : Catalog) (sources : List Source) (t : Template),
      t ∈ (c.takeAll sources).templates →
        t ∈ c.templates ∨ ∃ s ∈ sources, s.load = .ok t ∧ s.Assures t) := by
  refine ⟨fun s t hload => Source.assures_of_load hload,
    fun text t hload => Source.exists_raw_of_load hload, fun c sources t ht => ?_⟩
  rcases Catalog.mem_takeAll ht with hold | ⟨s, hs, hload⟩
  · exact .inl hold
  · exact .inr ⟨s, hs, hload, Source.assures_of_load hload⟩

/-- A WPML text whose choices are padded, blank and repeated. -/
def Template.Source.specimen : List Char :=
  Text.joinLines <| ["@key: card ", "@name:  Card", "[fields]",
    " status :select:Status:required,values= on | |off|on", "[body]", r" { ", r"} "].map
      String.toList

/-- The choices come out trimmed and without repeats, and the catalog keeps the template. -/
theorem Template.wellFormed_of_load_specimen : ∃ t t' raw,
    (Source.wpml Source.specimen).load = .ok t ∧
      t.fields.map FieldSpec.values = [some ["on", "off"]] ∧
      (Source.wpml Source.specimen).Assures t ∧
      (load .wpm PlainField.object.compact).outcome = .ok t' ∧
      Json.parse PlainField.object.compact = .ok raw ∧ (Source.wpm raw).Distinct ∧
      t ∈ (Catalog.empty.takeAll [.wpml Source.specimen, .wpm raw]).templates ∧
      ∃ s ∈ [Source.wpml Source.specimen, .wpm raw], s.load = .ok t ∧ s.Assures t := by
  obtain ⟨hassures, htext, hrun⟩ := wellFormed_of_load
  have hread : ((Source.wpml Source.specimen).load.toOption.map fun t =>
      t.fields.map FieldSpec.values) = some [some ["on", "off"]] := by decide +kernel
  obtain ⟨t, ht, hvalues⟩ := Option.map_eq_some_iff.mp hread
  have hload := toOption_eq_some_iff.mp ht
  have hobject : (load .wpm PlainField.object.compact).outcome.toOption.isSome = true := by
    decide +kernel
  obtain ⟨t', ht'⟩ := Option.isSome_iff_exists.mp hobject
  have hload' := toOption_eq_some_iff.mp ht'
  obtain ⟨raw, hparse, hdistinct, -⟩ := htext _ t' hload'
  have hfirst : Catalog.empty.take (.wpml Source.specimen) = ⟨[t]⟩ :=
    Catalog.take_of_insert hload rfl
  have hheld : t ∈ (Catalog.empty.takeAll [.wpml Source.specimen, .wpm raw]).templates := by
    refine Catalog.mem_takeAll_of_mem (c := Catalog.empty.take _) [.wpm raw] ?_
    rw [hfirst]
    exact List.mem_singleton_self t
  refine ⟨t, t', raw, hload, hvalues, hassures _ t hload, hload', hparse, hdistinct, hheld, ?_⟩
  exact (hrun _ _ t hheld).resolve_left List.not_mem_nil

end Issuance

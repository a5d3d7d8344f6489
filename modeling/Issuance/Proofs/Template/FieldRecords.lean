import Issuance.Proofs.Template.Wpml

/-! # What becomes of field lines

    Every field line of a WPML text is accounted for: it makes a field of the template, or the log
    has a record of it. A line makes none if it is malformed, or if a line before it made a field
    with its id. The records name the lines by their numbers in the whole text. -/

namespace Issuance

/-- Whether a record is about a field line. -/
def Event.isOfFieldLine : Event → Bool
  | .malformedField .. | .repeatedField .. => true
  | _ => false

namespace Wpml

/-- A line that makes a field with an id. -/
def Line.Makes (l : Line) (id : String) : Prop := ∃ f, field? l.text = some f ∧ f.id = id

/-- What becomes of a field line behind other field lines: a field if it is the first that makes one
    with its id, and else a record with the number of the line. -/
inductive Yields (before : List Line) (l : Line) : Reading → Prop
  | field {f : FieldSpec} : field? l.text = some f → (∀ l' ∈ before, ¬l'.Makes f.id) →
      Yields before l (.field f)
  | repeated {f : FieldSpec} : field? l.text = some f → (∃ l' ∈ before, l'.Makes f.id) →
      Yields before l (.skipped (.repeatedField f.id l.number))
  | malformed : ¬WellFormed l.text →
      Yields before l (.skipped (.malformedField l.number (String.ofList l.text)))

/-- What becomes of field lines behind other field lines, one by one and in order. -/
inductive Accounted : List Line → List Line → List Reading → Prop
  | nil {before : List Line} : Accounted before [] []
  | cons {before rest : List Line} {l : Line} {r : Reading} {rs : List Reading} :
      Yields before l r → Accounted (before ++ [l]) rest rs →
        Accounted before (l :: rest) (r :: rs)

variable {before ls : List Line} {l : Line} {r r' : Reading} {rs rs' : List Reading}
  {text : List Char} {t : Template}

/-! ### One line -/

theorem field?_eq_none_iff {line : List Char} : field? line = none ↔ ¬WellFormed line := by
  rw [← exists_field?_iff, Option.eq_none_iff_forall_ne_some, not_exists]

theorem makes_iff_of_eq_some {f : FieldSpec} (h : field? l.text = some f) {id : String} :
    l.Makes id ↔ f.id = id := by
  simp [Line.Makes, h]

theorem not_makes_of_eq_none (h : field? l.text = none) (id : String) : ¬l.Makes id := by
  simp [Line.Makes, h]

/-- A line yields one thing only. -/
theorem Yields.unique (h : Yields before l r) (h' : Yields before l r') : r = r' := by
  cases h with
  | field hf hfirst =>
    cases h' with
    | field hf' => rw [Option.some.inj (hf.symm.trans hf')]
    | repeated hf' hearlier =>
      obtain rfl := Option.some.inj (hf.symm.trans hf')
      obtain ⟨l', hl', hmakes⟩ := hearlier
      exact absurd hmakes (hfirst l' hl')
    | malformed hbad => exact absurd (exists_field?_iff.mp ⟨_, hf⟩) hbad
  | repeated hf hearlier =>
    cases h' with
    | field hf' hfirst =>
      obtain rfl := Option.some.inj (hf.symm.trans hf')
      obtain ⟨l', hl', hmakes⟩ := hearlier
      exact absurd hmakes (hfirst l' hl')
    | repeated hf' => rw [Option.some.inj (hf.symm.trans hf')]
    | malformed hbad => exact absurd (exists_field?_iff.mp ⟨_, hf⟩) hbad
  | malformed hbad =>
    cases h' with
    | field hf' => exact absurd (exists_field?_iff.mp ⟨_, hf'⟩) hbad
    | repeated hf' => exact absurd (exists_field?_iff.mp ⟨_, hf'⟩) hbad
    | malformed => rfl

/-- What a line that makes no field yields is a record of the field lines. -/
theorem Yields.of_record {e : Event} (h : Yields before l r) (he : r.record? = some e) :
    e.isOfFieldLine = true ∧ e.level = .debug := by
  cases h with
  | field => cases he
  | repeated => cases he; exact ⟨rfl, rfl⟩
  | malformed => cases he; exact ⟨rfl, rfl⟩

/-! ### All lines -/

theorem Accounted.unique (h : Accounted before ls rs) (h' : Accounted before ls rs') :
    rs = rs' := by
  induction h generalizing rs' with
  | nil => cases h'; rfl
  | cons hl _ ih =>
    cases h' with
    | cons hl' hrest => rw [hl.unique hl', ih hrest]

theorem Accounted.of_record {e : Event} (h : Accounted before ls rs)
    (he : e ∈ rs.filterMap Reading.record?) : e.isOfFieldLine = true ∧ e.level = .debug := by
  induction h with
  | nil => cases he
  | cons hl _ ih =>
    obtain ⟨r, hr, hrecord⟩ := List.mem_filterMap.mp he
    rcases List.mem_cons.mp hr with rfl | hr
    · exact hl.of_record hrecord
    · exact ih (List.mem_filterMap.mpr ⟨r, hr, hrecord⟩)

/-- Reading field lines accounts for them. The induction is on the lines; what it carries is that
    the ids that were seen are those that the lines before make. -/
theorem accounted_readFields : ∀ {before ls : List Line} {seen : List String},
    (∀ id, id ∈ seen ↔ ∃ l ∈ before, l.Makes id) → Accounted before ls (readFields seen ls)
  | _, [], _, _ => .nil
  | before, l :: rest, seen, hseen => by
    have hnext : ∀ id, (∃ k ∈ before ++ [l], k.Makes id) ↔ id ∈ seen ∨ l.Makes id := by
      intro id
      simp [hseen, or_and_right, exists_or]
    rw [readFields]
    cases hfield : field? l.text with
    | none =>
      refine .cons (.malformed (field?_eq_none_iff.mp hfield)) (accounted_readFields fun id => ?_)
      rw [hnext, or_iff_left (not_makes_of_eq_none hfield id)]
    | some f =>
      dsimp only
      split_ifs with hid
      · refine .cons (.repeated hfield ((hseen f.id).mp hid)) (accounted_readFields fun id => ?_)
        rw [hnext, makes_iff_of_eq_some hfield]
        exact ⟨.inl, fun h => h.elim (fun h => h) fun h => h ▸ hid⟩
      · have hfirst : ∀ l' ∈ before, ¬l'.Makes f.id :=
          fun l' hl' hmakes => hid ((hseen f.id).mpr ⟨l', hl', hmakes⟩)
        refine .cons (.field hfield hfirst) (accounted_readFields fun id => ?_)
        rw [hnext, makes_iff_of_eq_some hfield, List.mem_cons, or_comm, eq_comm]

/-- The readings of a text are what becomes of its field lines, and nothing else is. -/
theorem accounted_iff_eq_readings :
    Accounted [] (numberedIn .fields text) rs ↔ rs = readings text := by
  have hreadings : Accounted [] (numberedIn .fields text) (readings text) := by
    rw [readings, inPart_place]
    exact accounted_readFields (by simp)
  refine ⟨fun h => h.unique hreadings, ?_⟩
  rintro rfl
  exact hreadings

/-! ### The whole text -/

/-- The header has no record about a field line. -/
theorem isOfFieldLine_of_headerEvent? {e : Event} (h : headerEvent? l = some e) :
    e.isOfFieldLine = false := by
  rw [headerEvent?] at h
  split_ifs at h
  cases h
  rfl

theorem filter_isOfFieldLine_records (text : List Char) :
    (records text).filter Event.isOfFieldLine = (readings text).filterMap Reading.record? := by
  have hheader : ((inPart .header (place text)).filterMap headerEvent?).filter
      Event.isOfFieldLine = [] := by
    refine List.filter_eq_nil_iff.mpr fun e he => ?_
    obtain ⟨l, -, hl⟩ := List.mem_filterMap.mp he
    rw [isOfFieldLine_of_headerEvent? hl]
    decide
  have hfields : ((readings text).filterMap Reading.record?).filter Event.isOfFieldLine =
      (readings text).filterMap Reading.record? :=
    List.filter_eq_self.mpr fun e he => ((accounted_iff_eq_readings.mpr rfl).of_record he).1
  rw [records, List.filter_append, hheader, hfields, List.nil_append]

theorem fields_of_template (h : template text = .ok t) :
    t.fields = (readings text).filterMap Reading.field? := by
  obtain ⟨key, name, -, -, -, rfl⟩ := template_eq_ok_iff.mp h
  exact (fields_readings text).symm

end Wpml
end Issuance

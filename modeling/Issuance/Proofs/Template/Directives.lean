import Issuance.Proofs.Text.Cutting
import Issuance.Proofs.Text.Trimming
import Issuance.Template.Wpt
import Mathlib.Data.List.Basic

/-! # The directives of a WPT header

    A header line is a directive when it has one of three forms: a field with an id and at least a
    type, a value under one of four names, or a default for an id. No line has two of these forms,
    so a line is read as a directive just when it has the form of one. -/

namespace Issuance.Wpt

open Text (Trimmed Filled Stops)
open Placeholder (isPathChar)

variable {line s k w : List Char}

/-! ### The forms of a line -/

/-- A line `@name: value`, with white space around the colon. -/
def IsMeta (name : String) (line : List Char) (value : String) : Prop :=
  ∃ w v, line = '@' :: (name.toList ++ (w ++ ':' :: v)) ∧ Text.allBlank w = true ∧
    Text.allBlank v = false ∧ Text.trim v = value.toList

/-- A line `@default id: value`, with white space around the colon and any before the id. -/
def IsDefault (line : List Char) (d : String × String) : Prop :=
  ∃ gap w v, line = "@default".toList ++ (gap ++ (d.1.toList ++ (w ++ ':' :: v))) ∧
    gap ≠ [] ∧ Text.allBlank gap = true ∧ d.1.toList ≠ [] ∧
    (∀ c ∈ d.1.toList, isPathChar c = true) ∧ Text.allBlank w = true ∧ Text.allBlank v = false ∧
    Text.trim v = d.2.toList

/-- The field with an id and what stands behind its colon: the type comes first, and the attributes
    behind it are looked for one by one. -/
def fieldOf (id spec : List Char) : FieldSpec :=
  let kind := Text.firstWord spec
  let attributes := Text.trim (spec.drop kind.length)
  let f : FieldSpec :=
    { id := String.ofList id
      type := .ofName (String.ofList kind)
      label := String.ofList ((Text.search label? attributes).getD id)
      required := Text.hasWord "required".toList attributes }
  match Text.search choices? attributes with
  | some choices => f.withValues (Text.splitOn '|' choices)
  | none => f

@[simp]
theorem fieldOf_id (id spec : List Char) : (fieldOf id spec).id = String.ofList id := by
  rw [fieldOf]
  split <;> rfl

theorem fieldOf_type (id spec : List Char) :
    (fieldOf id spec).type = .ofName (String.ofList (Text.firstWord spec)) := by
  rw [fieldOf]
  split <;> rfl

theorem fieldOf_label (id spec : List Char) :
    (fieldOf id spec).label = String.ofList
      ((Text.search label? (Text.trim (spec.drop (Text.firstWord spec).length))).getD id) := by
  rw [fieldOf]
  split <;> rfl

theorem fieldOf_required (id spec : List Char) :
    (fieldOf id spec).required = Text.hasWord "required".toList
      (Text.trim (spec.drop (Text.firstWord spec).length)) := by
  rw [fieldOf]
  split <;> rfl

/-- A line `@field id: type` with attributes behind it. -/
def IsField (line : List Char) (f : FieldSpec) : Prop :=
  ∃ id spec, line = "@field ".toList ++ (id ++ ':' :: spec) ∧ ':' ∉ id ∧ Text.allBlank id = false ∧
    Text.allBlank spec = false ∧ f = fieldOf (Text.trim id) (Text.trim spec)

/-- What a line gives as a directive. -/
def Gives (line : List Char) : Directive → Prop
  | .key v => IsMeta "key" line v
  | .name v => IsMeta "name" line v
  | .context v => IsMeta "context" line v
  | .type v => IsMeta "type+" line v
  | .field f => IsField line f
  | .default id v => IsDefault line (id, v)

/-! ### Values behind a colon -/

theorem toNat_of_isAlphanum {c : Char} (h : c.isAlphanum = true) :
    0x30 ≤ c.toNat ∧ c.toNat ≤ 0x7A := by
  have hrange : ((0x41 ≤ c.toNat ∧ c.toNat ≤ 0x5A) ∨ (0x61 ≤ c.toNat ∧ c.toNat ≤ 0x7A)) ∨
      0x30 ≤ c.toNat ∧ c.toNat ≤ 0x39 := by
    rcases (Bool.or_eq_true c.isAlpha c.isDigit).mp h with h | hdigit
    · rcases (Bool.or_eq_true c.isUpper c.isLower).mp h with hupper | hlower
      · exact .inl (.inl (of_decide_eq_true hupper))
      · have hbounds := (Bool.and_eq_true _ _).mp hlower
        exact .inl (.inr ⟨of_decide_eq_true hbounds.1, of_decide_eq_true hbounds.2⟩)
    · have hbounds := (Bool.and_eq_true _ _).mp hdigit
      exact .inr ⟨of_decide_eq_true hbounds.1, of_decide_eq_true hbounds.2⟩
  omega

/-- White space and a colon end the span of any class that has neither. -/
theorem stops_colon {p : Char → Bool} (hp : ∀ c, p c = true → Text.isBlank c = false)
    (hcolon : p ':' = false) (hw : Text.allBlank w = true) (v : List Char) :
    Stops p (w ++ ':' :: v) := by
  cases w with
  | nil => exact Text.stops_cons.mpr hcolon
  | cons c rest =>
    simp only [Text.allBlank_cons, Bool.and_eq_true] at hw
    refine Text.stops_cons.mpr ?_
    rw [Bool.eq_false_iff]
    intro hc
    rw [hp c hc] at hw
    cases hw.1

theorem valueBehindColon?_of_blank (hw : Text.allBlank w = true) (v : List Char) :
    valueBehindColon? (w ++ ':' :: v) = if v = [] then none else some (Text.trim v) := by
  have hcolon : Stops Text.isBlank (':' :: v) := Text.stops_cons.mpr (by decide)
  have hstart : Text.trimStart (w ++ ':' :: v) = ':' :: v :=
    Text.dropWhile_span_append (Text.allBlank_iff.mp hw) hcolon
  simp only [valueBehindColon?, hstart]

theorem exists_of_valueBehindColon? {value : List Char} (h : valueBehindColon? s = some value) :
    ∃ w v, s = w ++ ':' :: v ∧ Text.allBlank w = true ∧ v ≠ [] ∧ Text.trim v = value := by
  rw [valueBehindColon?] at h
  split at h
  · next v hcolon =>
    split_ifs at h with hv
    cases h
    refine ⟨s.takeWhile Text.isBlank, v, ?_, Text.allBlank_takeWhile s, hv, rfl⟩
    rw [← hcolon, Text.trimStart, List.takeWhile_append_dropWhile]
  · cases h

/-- The end of a trimmed line is a value as soon as there is any. -/
theorem allBlank_of_trimmed {c : Char} {v : List Char} (h : Trimmed (s ++ c :: v))
    (hv : v ≠ []) : Text.allBlank v = false := by
  rw [List.append_cons] at h
  exact h.allBlank_suffix hv

/-! ### Values under a name -/

/-- The characters of the name of a value. -/
def isKeyChar (c : Char) : Bool := c.isAlpha || c == '+'

theorem isBlank_of_isKeyChar (c : Char) (h : isKeyChar c = true) : Text.isBlank c = false := by
  simp only [isKeyChar, Bool.or_eq_true, beq_iff_eq] at h
  rcases h with h | rfl
  · have hrange := toNat_of_isAlphanum (c := c) (by simp [Char.isAlphanum, h])
    exact Text.isBlank_of_toNat (by omega)
  · decide

theorem keyValue?_at (rest : List Char) :
    keyValue? ('@' :: rest) = if rest.takeWhile isKeyChar = [] then none
      else (valueBehindColon? (rest.dropWhile isKeyChar)).map
        fun value => (rest.takeWhile isKeyChar, value) := rfl

theorem keyValue?_eq_some_iff (hline : Trimmed line) {key value : List Char} :
    keyValue? line = some (key, value) ↔
      ∃ w v, line = '@' :: (key ++ (w ++ ':' :: v)) ∧ key ≠ [] ∧ (∀ c ∈ key, isKeyChar c = true) ∧
        Text.allBlank w = true ∧ Text.allBlank v = false ∧ Text.trim v = value := by
  constructor
  · intro h
    cases line with
    | nil => cases h
    | cons at' rest =>
      obtain rfl : at' = '@' := by
        by_contra hat
        rw [keyValue?.eq_2 _ (by rintro r heq; exact hat (List.cons.inj heq).1)] at h
        cases h
      rw [keyValue?_at] at h
      split_ifs at h with hkey
      obtain ⟨value', hvalue, heq⟩ := Option.map_eq_some_iff.mp h
      cases heq
      obtain ⟨w, v, hrest, hw, hv, rfl⟩ := exists_of_valueBehindColon? hvalue
      have hsplit : '@' :: rest = '@' :: (rest.takeWhile isKeyChar ++ w) ++ ':' :: v := by
        rw [List.cons_append, List.append_assoc, ← hrest, List.takeWhile_append_dropWhile]
      have hv' := allBlank_of_trimmed (hsplit ▸ hline) hv
      exact ⟨w, v, by simpa using hsplit, hkey, fun c hc => List.mem_takeWhile_imp hc, hw, hv', rfl⟩
  · rintro ⟨w, v, rfl, hkey, hchars, hw, hv, rfl⟩
    have hstops := stops_colon isBlank_of_isKeyChar (by decide) hw v
    have hvne : v ≠ [] := by rintro rfl; cases hv
    rw [keyValue?_at, Text.takeWhile_append_stops hstops, List.takeWhile_eq_self_iff.mpr hchars,
      Text.dropWhile_span_append hchars hstops, if_neg hkey, valueBehindColon?_of_blank hw,
      if_neg hvne]
    rfl

/-! ### Defaults -/

theorem isBlank_of_isPathChar (c : Char) (h : isPathChar c = true) : Text.isBlank c = false := by
  simp only [isPathChar, Bool.or_eq_true, beq_iff_eq] at h
  rcases h with ((h | rfl) | rfl) | rfl
  · have hrange := toNat_of_isAlphanum h
    exact Text.isBlank_of_toNat (by omega)
  all_goals decide

theorem default?_append (rest : List Char) :
    default? ("@default".toList ++ rest) =
      if Text.trimStart rest = rest ∨ (Text.trimStart rest).takeWhile isPathChar = [] then none
      else (valueBehindColon? ((Text.trimStart rest).dropWhile isPathChar)).map
        fun value => ((Text.trimStart rest).takeWhile isPathChar, value) := by
  rw [default?, Text.after?_append]
  rfl

theorem default?_eq_some_iff (hline : Trimmed line) {id value : List Char} :
    default? line = some (id, value) ↔
      ∃ gap w v, line = "@default".toList ++ (gap ++ (id ++ (w ++ ':' :: v))) ∧ gap ≠ [] ∧
        Text.allBlank gap = true ∧ id ≠ [] ∧ (∀ c ∈ id, isPathChar c = true) ∧
        Text.allBlank w = true ∧ Text.allBlank v = false ∧ Text.trim v = value := by
  constructor
  · intro h
    obtain ⟨rest, hrest, -⟩ := Option.bind_eq_some_iff.mp h
    obtain rfl := Text.after?_eq_some_iff.mp hrest
    rw [default?_append] at h
    split_ifs at h with hnone
    rw [not_or] at hnone
    obtain ⟨value', hvalue, heq⟩ := Option.map_eq_some_iff.mp h
    cases heq
    obtain ⟨w, v, hbehind, hw, hv, rfl⟩ := exists_of_valueBehindColon? hvalue
    have hsplit : rest = rest.takeWhile Text.isBlank ++
        ((Text.trimStart rest).takeWhile isPathChar ++ (w ++ ':' :: v)) := by
      rw [← hbehind, List.takeWhile_append_dropWhile, Text.trimStart,
        List.takeWhile_append_dropWhile]
    refine ⟨rest.takeWhile Text.isBlank, w, v, congrArg _ hsplit, ?_, Text.allBlank_takeWhile rest,
      hnone.2, fun c hc => List.mem_takeWhile_imp hc, hw, ?_, rfl⟩
    · intro hgap
      refine hnone.1 ?_
      conv_rhs => rw [← List.takeWhile_append_dropWhile (p := Text.isBlank) (l := rest), hgap]
      rfl
    · rw [hsplit, ← List.append_assoc, ← List.append_assoc, ← List.append_assoc] at hline
      exact allBlank_of_trimmed hline hv
  · rintro ⟨gap, w, v, rfl, hgapne, hgap, hid, hchars, hw, hv, rfl⟩
    have hstops := stops_colon isBlank_of_isPathChar (by decide) hw v
    have hvne : v ≠ [] := by rintro rfl; cases hv
    obtain ⟨c, chars, rfl⟩ := List.exists_cons_of_ne_nil hid
    have hc := isBlank_of_isPathChar c (hchars c List.mem_cons_self)
    have hstart : Text.trimStart (gap ++ (c :: chars ++ (w ++ ':' :: v))) =
        c :: chars ++ (w ++ ':' :: v) :=
      Text.dropWhile_span_append (Text.allBlank_iff.mp hgap) (Text.stops_cons.mpr hc)
    have hmoved : ¬c :: chars ++ (w ++ ':' :: v) = gap ++ (c :: chars ++ (w ++ ':' :: v)) := by
      intro heq
      have hlength := congrArg List.length heq
      simp only [List.length_append] at hlength
      exact hgapne (List.length_eq_zero_iff.mp (by omega))
    rw [default?_append, hstart, Text.takeWhile_append_stops hstops,
      List.takeWhile_eq_self_iff.mpr hchars, Text.dropWhile_span_append hchars hstops,
      if_neg (not_or.mpr ⟨hmoved, hid⟩), valueBehindColon?_of_blank hw, if_neg hvne]
    rfl

/-! ### Fields -/

/-- What stands before and behind the first colon makes the field. -/
theorem field_eq (text : List Char) :
    field text =
      match Text.cut ':' text with
      | none => .error (.malformedField (String.ofList text))
      | some (id, spec) =>
        if Text.trim id = [] ∨ Text.trim spec = [] then
          .error (.malformedField (String.ofList text))
        else .ok (fieldOf (Text.trim id) (Text.trim spec)) := by
  rw [field]
  rfl

theorem field_eq_ok_iff {text : List Char} {f : FieldSpec} :
    field text = .ok f ↔ ∃ id spec, text = id ++ ':' :: spec ∧ ':' ∉ id ∧
      Text.allBlank id = false ∧ Text.allBlank spec = false ∧
      f = fieldOf (Text.trim id) (Text.trim spec) := by
  rw [field_eq]
  constructor
  · intro h
    split at h
    · cases h
    · next id spec hcut =>
      obtain ⟨rfl, hid⟩ := Text.cut_eq_some_iff.mp hcut
      split_ifs at h with hblank
      simp only [Text.trim_eq_nil_iff, not_or, Bool.not_eq_true] at hblank
      exact ⟨id, spec, rfl, hid, hblank.1, hblank.2, (Except.ok.inj h).symm⟩
  · rintro ⟨id, spec, rfl, hid, hidBlank, hspecBlank, rfl⟩
    have hfilled : ¬(Text.trim id = [] ∨ Text.trim spec = []) := by
      rw [Text.trim_eq_nil_iff, Text.trim_eq_nil_iff, hidBlank, hspecBlank]
      simp
    rw [Text.cut_append_cons spec hid]
    exact if_neg hfilled

/-- White space around a field makes no difference. -/
theorem field_trim_eq_ok_iff {text : List Char} {f : FieldSpec} :
    field (Text.trim text) = .ok f ↔ field text = .ok f := by
  have hcolon : Text.isBlank ':' = false := by decide
  rw [field_eq_ok_iff, field_eq_ok_iff]
  constructor
  · rintro ⟨id, spec, htrim, hid, hidBlank, hspecBlank, rfl⟩
    obtain ⟨w, w', hw, hw', htext⟩ := Text.exists_trim text
    rw [htrim] at htext
    refine ⟨w ++ id, spec ++ w', by simpa using htext, ?_, ?_, ?_, ?_⟩
    · intro hmem
      rcases List.mem_append.mp hmem with hmem | hmem
      · rw [Text.allBlank_iff.mp hw _ hmem] at hcolon
        cases hcolon
      · exact hid hmem
    · rw [Text.allBlank_append, hidBlank, Bool.and_false]
    · rw [Text.allBlank_append, hspecBlank, Bool.false_and]
    · rw [Text.trim_append_left hw, Text.trim_append_right hw']
  · rintro ⟨id, spec, rfl, hid, hidBlank, hspecBlank, rfl⟩
    refine ⟨Text.trimStart id, Text.trimEnd spec, Text.trim_append_cons hcolon id spec, ?_, ?_, ?_,
      ?_⟩
    · exact fun hmem => hid ((List.dropWhile_suffix _).subset hmem)
    · rw [← Text.allBlank_trim, Text.trim_trimStart, Text.allBlank_trim, hidBlank]
    · rw [← Text.allBlank_trim, Text.trim_trimEnd, Text.allBlank_trim, hspecBlank]
    · rw [Text.trim_trimStart, Text.trim_trimEnd]

theorem isField_append_iff {rest : List Char} {f : FieldSpec} :
    IsField ("@field ".toList ++ rest) f ↔ field (Text.trim rest) = .ok f := by
  rw [field_trim_eq_ok_iff, field_eq_ok_iff]
  simp only [IsField, List.append_cancel_left_eq]

/-! ### One form for each line -/

/-- The names under which a line can give a value. -/
def metaNames : List String := ["key", "name", "context", "type+"]

theorem isMeta_iff (hline : Trimmed line) {name : String} (hname : name ∈ metaNames)
    {value : String} :
    IsMeta name line value ↔ keyValue? line = some (name.toList, value.toList) := by
  have hnames : ∀ n ∈ metaNames, n.toList ≠ [] ∧ n.toList.all isKeyChar = true := by decide
  obtain ⟨hne, hchars⟩ := hnames name hname
  rw [keyValue?_eq_some_iff hline]
  constructor
  · rintro ⟨w, v, rfl, hw, hv, hvalue⟩
    exact ⟨w, v, rfl, hne, List.all_eq_true.mp hchars, hw, hv, hvalue⟩
  · rintro ⟨w, v, rfl, -, -, hw, hv, hvalue⟩
    exact ⟨w, v, rfl, hw, hv, hvalue⟩

theorem isDefault_iff (hline : Trimmed line) {d : String × String} :
    IsDefault line d ↔ default? line = some (d.1.toList, d.2.toList) :=
  (default?_eq_some_iff hline).symm

/-- In a default the colon does not come right behind the word. -/
theorem keyValue?_of_isDefault (hline : Trimmed line) {d : String × String}
    (h : IsDefault line d) : keyValue? line = none := by
  rw [Option.eq_none_iff_forall_ne_some]
  rintro ⟨key, value⟩ hkey
  obtain ⟨gap, w, v, hdefault, hgapne, hgap, hid, hchars, -⟩ := h
  obtain ⟨w', v', hmeta, -, hkeyChars, hw', -, -⟩ := (keyValue?_eq_some_iff hline).mp hkey
  obtain ⟨c, id, hd⟩ := List.exists_cons_of_ne_nil hid
  rw [hd, List.cons_append] at hdefault
  rw [hd] at hchars
  have hc := hchars c List.mem_cons_self
  -- Both forms of the line have the same name, and the same text behind the white space after it.
  have hboth : "default".toList ++ (gap ++ c :: (id ++ (w ++ ':' :: v))) =
      key ++ (w' ++ ':' :: v') := List.cons.inj (hdefault.symm.trans hmeta) |>.2
  have hgapStops : Stops isKeyChar (gap ++ c :: (id ++ (w ++ ':' :: v))) := by
    obtain ⟨b, blanks, rfl⟩ := List.exists_cons_of_ne_nil hgapne
    refine Text.stops_cons.mpr ?_
    rw [Bool.eq_false_iff]
    intro hb
    simp only [Text.allBlank_cons, isBlank_of_isKeyChar b hb, Bool.false_and] at hgap
    cases hgap
  have hbehind : gap ++ c :: (id ++ (w ++ ':' :: v)) = w' ++ ':' :: v' := by
    have hdrop := congrArg (List.dropWhile isKeyChar) hboth
    rwa [Text.dropWhile_span_append (Text.forall_mem_of_all (by decide)) hgapStops,
      Text.dropWhile_span_append hkeyChars (stops_colon isBlank_of_isKeyChar (by decide) hw' v')]
      at hdrop
  have hstart := congrArg (List.dropWhile Text.isBlank) hbehind
  rw [Text.dropWhile_span_append (Text.allBlank_iff.mp hgap)
      (Text.stops_cons.mpr (isBlank_of_isPathChar c hc)),
    Text.dropWhile_span_append (Text.allBlank_iff.mp hw') (Text.stops_cons.mpr (by decide))]
    at hstart
  rw [(List.cons.inj hstart).1] at hc
  exact absurd hc (by decide)

/-- A line that starts like a field has no other form. -/
theorem eq_field_of_gives {rest : List Char} {d : Directive}
    (h : Gives ("@field ".toList ++ rest) d) : ∃ f, d = .field f := by
  have hmeta : ∀ {name value : String}, name.toList.head? ≠ some 'f' → name.toList ≠ [] →
      ¬IsMeta name ("@field ".toList ++ rest) value := by
    rintro name value hhead hne ⟨w, v, hline, -⟩
    obtain ⟨c, chars, hname⟩ := List.exists_cons_of_ne_nil hne
    rw [hname] at hline hhead
    have hc := (List.cons.inj (List.cons.inj hline).2).1
    exact hhead (congrArg some hc.symm)
  cases d with
  | field f => exact ⟨f, rfl⟩
  | key v => exact absurd h (hmeta (by decide) (by decide))
  | name v => exact absurd h (hmeta (by decide) (by decide))
  | context v => exact absurd h (hmeta (by decide) (by decide))
  | type v => exact absurd h (hmeta (by decide) (by decide))
  | default id v =>
    obtain ⟨gap, w, v, hline, -⟩ := h
    have hc := (List.cons.inj (List.cons.inj hline).2).1
    exact absurd hc (by decide)

theorem directive_field_iff {rest : List Char} {d : Directive} :
    directive ("@field ".toList ++ rest) = .ok d ↔ Gives ("@field ".toList ++ rest) d := by
  rw [directive, Text.after?_append]
  dsimp only
  constructor
  · intro h
    cases hf : field (Text.trim rest) with
    | error flaw => rw [hf] at h; cases h
    | ok f => rw [hf] at h; cases h; exact isField_append_iff.mpr hf
  · intro h
    obtain ⟨f, rfl⟩ := eq_field_of_gives h
    rw [isField_append_iff.mp h]
    rfl

/-- A trimmed id with a trimmed text behind its colon is the field that they make. -/
theorem directive_of_filled {id spec : List Char} (hid : Filled id) (hcolon : ':' ∉ id)
    (hspec : Filled spec) :
    directive ("@field ".toList ++ (id ++ ':' :: ' ' :: spec)) =
      .ok (.field (fieldOf id spec)) := by
  have htrimId : Text.trim id = id := hid.2
  have htrimSpec : Text.trim (' ' :: spec) = spec :=
    (Text.trim_append_left (by decide : Text.allBlank [' '] = true) spec).trans hspec.2
  refine directive_field_iff.mpr ⟨id, ' ' :: spec, rfl, hcolon, hid.not_blank, ?_, ?_⟩
  · rw [← Text.allBlank_trim, htrimSpec]
    exact hspec.not_blank
  · rw [htrimId, htrimSpec]

theorem not_isField (hfield : Text.after? "@field ".toList line = none) (f : FieldSpec) :
    ¬IsField line f := by
  rintro ⟨id, spec, rfl, -⟩
  rw [Text.after?_append] at hfield
  cases hfield

/-- A name and a value are a directive under one of the names. -/
theorem directive_keyValue_iff (hline : Trimmed line)
    (hfield : Text.after? "@field ".toList line = none) {key value : List Char}
    (hkey : keyValue? line = some (key, value)) {d : Directive} :
    directive line = .ok d ↔ Gives line d := by
  rw [directive, hfield, hkey]
  dsimp only
  constructor
  · intro h
    have hgiven : ∀ name ∈ metaNames, key = name.toList →
        IsMeta name line (String.ofList value) := by
      rintro name hname rfl
      rw [isMeta_iff hline hname, hkey, String.toList_ofList]
    split_ifs at h with htype hkeyName hname hcontext
    · cases h; exact hgiven "type+" (by decide) htype
    · cases h; exact hgiven "key" (by decide) hkeyName
    · cases h; exact hgiven "name" (by decide) hname
    · cases h; exact hgiven "context" (by decide) hcontext
  · intro h
    have hread : ∀ name ∈ metaNames, ∀ v, IsMeta name line v →
        key = name.toList ∧ String.ofList value = v := by
      intro name hname v hv
      have hsame := hkey.symm.trans ((isMeta_iff hline hname).mp hv)
      cases hsame
      exact ⟨rfl, String.ofList_toList⟩
    cases d with
    | field f => exact absurd h (not_isField hfield f)
    | default id v => rw [keyValue?_of_isDefault hline h] at hkey; cases hkey
    | type v =>
      obtain ⟨rfl, rfl⟩ := hread "type+" (by decide) v h
      rw [if_pos rfl]
    | key v =>
      obtain ⟨rfl, rfl⟩ := hread "key" (by decide) v h
      rw [if_neg (by decide), if_pos rfl]
    | name v =>
      obtain ⟨rfl, rfl⟩ := hread "name" (by decide) v h
      rw [if_neg (by decide), if_neg (by decide), if_pos rfl]
    | context v =>
      obtain ⟨rfl, rfl⟩ := hread "context" (by decide) v h
      rw [if_neg (by decide), if_neg (by decide), if_neg (by decide), if_pos rfl]

/-- What is no name and value is a directive as a default. -/
theorem directive_default_iff (hline : Trimmed line)
    (hfield : Text.after? "@field ".toList line = none) (hkey : keyValue? line = none)
    {d : Directive} : directive line = .ok d ↔ Gives line d := by
  rw [directive, hfield, hkey]
  dsimp only
  constructor
  · intro h
    split at h
    · next id value hdefault =>
      cases h
      exact (isDefault_iff hline).mpr (by simpa using hdefault)
    · cases h
  · intro h
    have hnotMeta : ∀ name ∈ metaNames, ∀ v, ¬IsMeta name line v := by
      intro name hname v hv
      have hread := (isMeta_iff hline hname).mp hv
      rw [hkey] at hread
      cases hread
    cases d with
    | field f => exact absurd h (not_isField hfield f)
    | type v => exact absurd h (hnotMeta "type+" (by decide) v)
    | key v => exact absurd h (hnotMeta "key" (by decide) v)
    | name v => exact absurd h (hnotMeta "name" (by decide) v)
    | context v => exact absurd h (hnotMeta "context" (by decide) v)
    | default id v =>
      rw [(isDefault_iff hline).mp h]
      simp

/-- A header line is read as a directive just when it has the form of one. -/
theorem directive_eq_ok_iff (hline : Trimmed line) {d : Directive} :
    directive line = .ok d ↔ Gives line d := by
  cases hfield : Text.after? "@field ".toList line with
  | some rest =>
    obtain rfl := Text.after?_eq_some_iff.mp hfield
    exact directive_field_iff
  | none =>
    cases hkey : keyValue? line with
    | some p => exact directive_keyValue_iff hline hfield hkey
    | none => exact directive_default_iff hline hfield hkey

end Issuance.Wpt

import Issuance.Proofs.Template.Building
import Issuance.Proofs.Text.Cutting
import Issuance.Proofs.Text.Given
import Issuance.Proofs.Text.Lines
import Issuance.Template.Source

/-! # The sections of a WPML text

    A marker opens a part, and a line that is neither blank nor a marker stands in the part that the
    last marker before it opened, or in the header. A template comes of the lines of the three parts
    and of nothing else. -/

namespace Issuance.Wpml

variable {part o : Part} {line text : List Char} {ls : List (List Char)}

/-! ### The lines of a part -/

/-- The part that a line opens, if it is a marker. -/
def opens? (line : List Char) : Option Part :=
  if fieldsMarker.isPrefixOf line then some .fields
  else if bodyMarker.isPrefixOf line then some .body
  else none

/-- The part that is open behind lines: that of the last marker among them, or the one that was open
    before them. -/
def openBehind (o : Part) (ls : List (List Char)) : Part := ((ls.filterMap opens?).getLast?).getD o

/-- Whether a line stands in a part, given the lines before it. -/
def standsIn (part : Part) (before : List (List Char)) (line : List Char) : Bool :=
  !Text.allBlank line && (opens? line).isNone && openBehind .header before == part

/-- The lines of a text that stand in a part. -/
def linesIn (part : Part) (text : List Char) : List (List Char) :=
  let ls := Text.lines text
  (ls.zipIdx.filter fun l => standsIn part (ls.take l.2) l.1).map Prod.fst

/-- The lines of a text that stand in a part, with their numbers among all lines of the text. -/
def numberedIn (part : Part) (text : List Char) : List Line :=
  let ls := Text.lines text
  (ls.zipIdx.filter fun l => standsIn part (ls.take l.2) l.1).map fun l => ⟨part, l.2 + 1, l.1⟩

/-- The lines of a part among lines before which some part is open, one line after the other. -/
def sift (part : Part) : Part → List (List Char) → List (List Char)
  | _, [] => []
  | o, line :: rest =>
    if Text.allBlank line then sift part o rest
    else
      match opens? line with
      | some q => sift part q rest
      | none => if o = part then line :: sift part o rest else sift part o rest

theorem opens?_eq_none_iff :
    opens? line = none ↔ ¬fieldsMarker <+: line ∧ ¬bodyMarker <+: line := by
  rw [← List.isPrefixOf_iff_prefix, ← List.isPrefixOf_iff_prefix, opens?]
  split_ifs with hfields hbody <;> simp [*]

/-- A marker is not blank. -/
theorem opens?_of_blank (h : Text.allBlank line = true) : opens? line = none := by
  cases line with
  | nil => rfl
  | cons c rest =>
    have hc : ¬ '[' = c := by
      rintro rfl
      simp only [Text.allBlank_cons, Bool.and_eq_true] at h
      exact absurd h.1 (by decide)
    have hfields : fieldsMarker = '[' :: "fields]".toList := rfl
    have hbody : bodyMarker = '[' :: "body]".toList := rfl
    simp [opens?, hfields, hbody, List.isPrefixOf, hc]

theorem openBehind_cons (o : Part) (line : List Char) (ls : List (List Char)) :
    openBehind o (line :: ls) = openBehind ((opens? line).getD o) ls := by
  rw [openBehind, openBehind]
  cases hopens : opens? line with
  | none => rw [List.filterMap_cons_none hopens]; rfl
  | some q =>
    rw [List.filterMap_cons_some hopens, List.getLast?_cons]
    rfl

theorem openBehind_append (o : Part) : ∀ ls ms : List (List Char),
    openBehind o (ls ++ ms) = openBehind (openBehind o ls) ms
  | [], _ => rfl
  | line :: rest, ms => by
    rw [List.cons_append, openBehind_cons, openBehind_append _ rest ms, openBehind_cons]

/-- What one line adds to a part. -/
theorem sift_cons (part o : Part) (line : List Char) (rest : List (List Char)) :
    sift part o (line :: rest) =
      (if !Text.allBlank line && (opens? line).isNone && o == part then [line] else []) ++
        sift part ((opens? line).getD o) rest := by
  rw [sift]
  by_cases hblank : Text.allBlank line
  · simp [hblank, opens?_of_blank hblank]
  · cases hopens : opens? line with
    | some q => simp [hblank]
    | none => by_cases ho : o = part <;> simp [hblank, ho]

theorem sift_append (part : Part) : ∀ (o : Part) (ls ms : List (List Char)),
    sift part o (ls ++ ms) = sift part o ls ++ sift part (openBehind o ls) ms
  | _, [], _ => rfl
  | o, line :: rest, ms => by
    rw [List.cons_append, sift_cons, sift_cons, sift_append part _ rest ms, openBehind_cons,
      List.append_assoc]

/-- Lines without a marker among them leave the part open that was. -/
theorem openBehind_of_no_marker (o : Part) (h : ∀ line ∈ ls, opens? line = none) :
    openBehind o ls = o := by
  rw [openBehind, List.filterMap_eq_nil_iff.mpr h]
  rfl

/-- Lines without a marker among them stand in the part that is open before them. -/
theorem sift_of_no_marker (part o : Part) : ∀ {ls : List (List Char)},
    (∀ line ∈ ls, opens? line = none) →
      sift part o ls = if o = part then ls.filter (!Text.allBlank ·) else []
  | [], _ => by simp [sift]
  | line :: rest, h => by
    have hopens := h line List.mem_cons_self
    rw [sift_cons, hopens, sift_of_no_marker part _ fun l hl => h l (List.mem_cons_of_mem line hl)]
    by_cases ho : o = part
    · cases hblank : Text.allBlank line <;> simp [ho, hblank]
    · simp [ho]

/-- A line that stands in the part that is open: it is not blank and no marker. -/
def Stands (line : List Char) : Prop := Text.allBlank line = false ∧ opens? line = none

theorem sift_of_stands (part o : Part) (h : ∀ line ∈ ls, Stands line) :
    sift part o ls = if o = part then ls else [] := by
  have hall : ls.filter (!Text.allBlank ·) = ls :=
    List.filter_eq_self.mpr fun line hline => by rw [(h line hline).1]; rfl
  rw [sift_of_no_marker part o fun line hline => (h line hline).2, hall]

theorem openBehind_of_stands (o : Part) (h : ∀ line ∈ ls, Stands line) : openBehind o ls = o :=
  openBehind_of_no_marker o fun line hline => (h line hline).2

/-- What one line adds to the lines placed in a part. -/
theorem inPart_placeFrom_cons (part o : Part) (n : Nat) (line : List Char)
    (rest : List (List Char)) :
    inPart part (placeFrom o n (line :: rest)) =
      (if !Text.allBlank line && (opens? line).isNone && o == part then [⟨part, n, line⟩]
        else []) ++
        inPart part (placeFrom ((opens? line).getD o) (n + 1) rest) := by
  rw [placeFrom]
  by_cases hblank : Text.allBlank line
  · simp [hblank, opens?_of_blank hblank]
  rw [if_neg hblank, opens?]
  by_cases hfields : fieldsMarker.isPrefixOf line
  · simp [hfields]
  by_cases hbody : bodyMarker.isPrefixOf line
  · simp [hfields, hbody]
  · by_cases ho : o = part <;> simp [inPart, hblank, hfields, hbody, ho]

/-- Going through the lines one by one, every part gets its lines with their numbers. -/
theorem inPart_placeFrom (part : Part) : ∀ before ls : List (List Char),
    inPart part (placeFrom (openBehind .header before) (before.length + 1) ls) =
      ((ls.zipIdx before.length).filter fun l =>
        standsIn part ((before ++ ls).take l.2) l.1).map fun l => ⟨part, l.2 + 1, l.1⟩
  | _, [] => rfl
  | before, line :: rest => by
    have hrest := inPart_placeFrom part (before ++ [line]) rest
    have hopen : openBehind .header (before ++ [line]) =
        (opens? line).getD (openBehind .header before) := by
      rw [openBehind_append, openBehind_cons]
      rfl
    rw [List.append_assoc, List.singleton_append, List.length_append, List.length_singleton,
      hopen] at hrest
    rw [inPart_placeFrom_cons, hrest, List.zipIdx_cons, List.filter_cons, List.take_left, standsIn]
    split <;> rfl

/-- The lines placed in a part are those that stand in it. -/
theorem inPart_place (part : Part) (text : List Char) :
    inPart part (place text) = numberedIn part text :=
  inPart_placeFrom part [] (Text.lines text)

/-- The text of the lines placed in a part. -/
theorem map_text_inPart_place (part : Part) (text : List Char) :
    (inPart part (place text)).map Line.text = linesIn part text := by
  rw [inPart_place, numberedIn, linesIn, List.map_map]
  rfl

theorem map_text_inPart (part : Part) : ∀ (o : Part) (n : Nat) (ls : List (List Char)),
    (inPart part (placeFrom o n ls)).map Line.text = sift part o ls
  | _, _, [] => rfl
  | o, n, line :: rest => by
    rw [inPart_placeFrom_cons, sift_cons, List.map_append, map_text_inPart part _ (n + 1) rest]
    split <;> rfl

theorem linesIn_eq_sift (part : Part) (text : List Char) :
    linesIn part text = sift part .header (Text.lines text) := by
  rw [← map_text_inPart_place, place, map_text_inPart]

theorem not_blank_of_mem_sift : ∀ {o : Part} {ls : List (List Char)}, line ∈ sift part o ls →
    Text.allBlank line = false
  | _, [], h => by cases h
  | o, l :: rest, h => by
    rw [sift_cons] at h
    rcases List.mem_append.mp h with h | h
    · split at h
      · next hstands =>
        rw [List.mem_singleton.mp h]
        simp only [Bool.and_eq_true, Bool.not_eq_true'] at hstands
        exact hstands.1.1
      · cases h
    · exact not_blank_of_mem_sift h

/-! ### Entries of the header -/

/-- A line `@k:v` that gives a value to a name: `k` is the name and `v` the value, with white space
    around them, and the value is not blank. -/
def IsEntry (name : String) (line : List Char) (value : String) : Prop :=
  ∃ k v, line = '@' :: (k ++ ':' :: v) ∧ Text.trim k = name.toList ∧ Text.allBlank v = false ∧
    Text.trim v = value.toList

/-- The value that a line gives to a name. -/
def valueUnder? (name : String) (line : List Char) : Option String :=
  (readEntry line).bind (Text.under? name)

theorem readEntry_eq_some_iff {e : String × String} :
    readEntry line = some e ↔ ∃ k v, line = '@' :: (k ++ ':' :: v) ∧ ':' ∉ k ∧
      Text.allBlank k = false ∧ Text.allBlank v = false ∧
      e = (String.ofList (Text.trim k), String.ofList (Text.trim v)) := by
  constructor
  · intro h
    rw [readEntry.eq_def] at h
    split at h
    · next rest =>
      split at h
      · cases h
      · next k v hcut =>
        obtain ⟨rfl, hk⟩ := Text.cut_eq_some_iff.mp hcut
        split at h
        · cases h
        · next hblank =>
          simp only [Bool.or_eq_true, not_or, Bool.not_eq_true] at hblank
          cases h
          exact ⟨k, v, rfl, hk, hblank.1, hblank.2, rfl⟩
    · cases h
  · rintro ⟨k, v, rfl, hk, hkblank, hvblank, rfl⟩
    simp [readEntry, Text.cut_append_cons v hk, hkblank, hvblank]

/-- A name without a colon is given its values by the entries that are read. -/
theorem valueUnder?_eq_some_iff {name value : String} (hne : name.toList ≠ [])
    (hcolon : ':' ∉ name.toList) :
    valueUnder? name line = some value ↔ IsEntry name line value := by
  have hnotBlank : Text.isBlank ':' = false := by decide
  rw [valueUnder?, Option.bind_eq_some_iff]
  constructor
  · rintro ⟨e, he, hvalue⟩
    obtain ⟨k, v, rfl, -, -, hv, rfl⟩ := readEntry_eq_some_iff.mp he
    rw [Text.under?] at hvalue
    split_ifs at hvalue with hname
    cases hvalue
    exact ⟨k, v, rfl, by rw [← hname, String.toList_ofList], hv, (String.toList_ofList).symm⟩
  · rintro ⟨k, v, rfl, hk, hv, hvalue⟩
    have hkcolon : ':' ∉ k := fun hmem => hcolon (hk ▸ (Text.mem_trim_iff hnotBlank).mpr hmem)
    have hkblank : Text.allBlank k = false := by
      rw [Bool.eq_false_iff]
      intro hblank
      rw [Text.trim_eq_nil_iff.mpr hblank] at hk
      exact hne hk.symm
    refine ⟨_, readEntry_eq_some_iff.mpr ⟨k, v, rfl, hkcolon, hkblank, hv, rfl⟩, ?_⟩
    simp [Text.under?, hk, hvalue]

theorem lastValue?_filterMap (name : String) (ls : List (List Char)) :
    lastValue? name (ls.filterMap readEntry) = (ls.filterMap (valueUnder? name)).getLast? := by
  have hunder : ls.filterMap (valueUnder? name) =
      ((ls.filterMap readEntry).filter fun e => e.1 == name).map Prod.snd := by
    rw [← List.filterMap_eq_map, ← List.filterMap_eq_filter, List.filterMap_filterMap,
      List.filterMap_filterMap]
    congr 1
    funext l
    simp only [valueUnder?]
    cases readEntry l with
    | none => rfl
    | some e => by_cases he : e.1 = name <;> simp [Text.under?, Option.guard, he]
  rw [hunder, lastValue?, List.getLast?_map, List.getLast?_eq_head?_reverse, ← List.filter_reverse,
    List.head?_filter]

theorem entries_eq (text : List Char) :
    entries text = (linesIn .header text).filterMap readEntry := by
  rw [entries, ← map_text_inPart_place, List.filterMap_map]
  rfl

/-! ### Fields -/

theorem fields_readFields : ∀ (seen : List String) (ls : List Line),
    (readFields seen ls).filterMap Reading.field? =
      (Text.firstsBy FieldSpec.id ((ls.map Line.text).filterMap field?)).filter
        fun f => f.id ∉ seen
  | _, [] => rfl
  | seen, l :: rest => by
    rw [readFields, List.map_cons]
    cases hfield : field? l.text with
    | none => rw [List.filterMap_cons_none hfield]; exact fields_readFields seen rest
    | some f =>
      rw [List.filterMap_cons_some hfield, Text.firstsBy, List.filter_cons]
      dsimp only
      by_cases hseen : f.id ∈ seen
      · rw [if_pos hseen, if_neg (by simpa using hseen), List.filter_filter]
        refine (fields_readFields seen rest).trans (List.filter_congr fun g _ => ?_)
        by_cases hg : g.id = f.id <;> simp [hg, hseen]
      · rw [if_neg hseen, if_pos (by simpa using hseen), List.filter_filter]
        refine congrArg (f :: ·) ?_
        refine (fields_readFields (f.id :: seen) rest).trans (List.filter_congr fun g _ => ?_)
        by_cases hg : g.id = f.id <;> simp [hg, hseen]

theorem length_readFields : ∀ (seen : List String) (ls : List Line),
    (readFields seen ls).length = ls.length
  | _, [] => rfl
  | seen, l :: rest => by
    rw [readFields, List.length_cons]
    split
    · rw [List.length_cons, length_readFields seen rest]
    · split_ifs
      · rw [List.length_cons, length_readFields seen rest]
      · rw [List.length_cons, length_readFields _ rest]

/-- The fields of a text are those of its field lines, the first one of each id. -/
theorem fields_readings (text : List Char) :
    (readings text).filterMap Reading.field? =
      Text.firstsBy FieldSpec.id ((linesIn .fields text).filterMap field?) := by
  rw [readings, fields_readFields, map_text_inPart_place]
  exact List.filter_eq_self.mpr fun f _ => by simp

end Issuance.Wpml

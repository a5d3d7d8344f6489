import Issuance.Proofs.Text.Spans

/-! # Trimmed texts

    A text is white space, its trimmed form, and white space again, and the trimmed form is the only
    text between white space that neither starts nor ends with it. So white space added on either
    side of a text is lost when it is trimmed, and nothing else is. -/

namespace Issuance.Text

variable {s t w w' : List Char} {c : Char}

/-! ### Texts of white space -/

theorem allBlank_iff : allBlank s = true ↔ ∀ c ∈ s, isBlank c = true := List.all_eq_true

@[simp]
theorem allBlank_nil : allBlank [] = true := rfl

@[simp]
theorem allBlank_cons : allBlank (c :: s) = (isBlank c && allBlank s) := rfl

@[simp]
theorem allBlank_append : allBlank (s ++ t) = (allBlank s && allBlank t) := List.all_append

theorem allBlank_reverse : allBlank s.reverse = allBlank s := List.all_reverse

/-- Between the space and the first control behind ASCII there is no white space. -/
theorem isBlank_of_toNat (h : 0x21 ≤ c.toNat ∧ c.toNat ≤ 0x84) : isBlank c = false := by
  rw [Bool.eq_false_iff]
  intro hc
  simp only [isBlank, Bool.or_eq_true, Bool.and_eq_true, decide_eq_true_eq, beq_iff_eq] at hc
  omega

theorem allBlank_takeWhile (s : List Char) : allBlank (s.takeWhile isBlank) = true :=
  allBlank_iff.mpr fun _ hc => List.mem_takeWhile_imp hc

/-! ### What trimming leaves -/

/-- A text is trimmed when it neither starts nor ends with white space. -/
theorem trimmed_of_stops (hstart : Stops isBlank s) (hend : Stops isBlank s.reverse) :
    Trimmed s := by
  rw [Trimmed, trim, trimStart, hstart.dropWhile, trimEnd, hend.dropWhile, List.reverse_reverse]

theorem trimmed_of_no_blank (h : ∀ c ∈ s, isBlank c = false) : Trimmed s := by
  refine trimmed_of_stops (fun c hc => h c (List.mem_of_mem_head? hc)) fun c hc => ?_
  exact h c (List.mem_reverse.mp (List.mem_of_mem_head? hc))

/-- A text is trimmed when neither the start nor the end of it is white space. -/
theorem trimmed_append (hs : Stops isBlank s) (hne : s ≠ []) (ht : Stops isBlank t.reverse)
    (hne' : t ≠ []) : Trimmed (s ++ t) := by
  refine trimmed_of_stops (fun c hc => hs c ?_) fun c hc => ht c ?_
  · rwa [List.head?_append_of_ne_nil s hne] at hc
  · rwa [List.reverse_append, List.head?_append_of_ne_nil _ (by simpa using hne')] at hc

theorem stops_trimEnd (h : Stops isBlank s) : Stops isBlank (trimEnd s) := by
  cases s with
  | nil => exact stops_nil
  | cons c rest =>
    have hc := stops_cons.mp h
    have hsplit : (c :: rest).reverse.dropWhile isBlank =
        rest.reverse.dropWhile isBlank ++ [c] := by
      rw [List.reverse_cons, dropWhile_append_stops (stops_cons.mpr hc)]
    rw [trimEnd, hsplit, List.reverse_append, List.reverse_singleton, List.singleton_append]
    exact stops_cons.mpr hc

theorem stops_trim (s : List Char) : Stops isBlank (trim s) := stops_trimEnd (stops_dropWhile s)

theorem stops_reverse_trim (s : List Char) : Stops isBlank (trim s).reverse := by
  rw [trim, trimEnd, List.reverse_reverse]
  exact stops_dropWhile _

theorem trimmed_trim (s : List Char) : Trimmed (trim s) :=
  trimmed_of_stops (stops_trim s) (stops_reverse_trim s)

theorem Trimmed.stops (h : Trimmed s) : Stops isBlank s := h ▸ stops_trim s

theorem Trimmed.stops_reverse (h : Trimmed s) : Stops isBlank s.reverse := h ▸ stops_reverse_trim s

/-- Between white space, the trimmed form is found again. -/
theorem trim_between (hw : allBlank w = true) (hs : Trimmed s) (hw' : allBlank w' = true) :
    trim (w ++ (s ++ w')) = s := by
  rw [allBlank_iff] at hw hw'
  have hrev : ∀ c ∈ w'.reverse, isBlank c = true := fun c hc => hw' c (List.mem_reverse.mp hc)
  cases s with
  | nil =>
    have hstart : trimStart (w ++ ([] ++ w')) = [] := by
      rw [trimStart, List.dropWhile_append_of_pos hw, List.nil_append]
      exact List.dropWhile_eq_nil_iff.mpr hw'
    rw [trim, hstart]
    rfl
  | cons c rest =>
    have hstart : trimStart (w ++ (c :: rest ++ w')) = c :: rest ++ w' :=
      dropWhile_span_append hw (stops_cons.mpr (stops_cons.mp hs.stops))
    rw [trim, hstart, trimEnd, List.reverse_append, dropWhile_span_append hrev hs.stops_reverse,
      List.reverse_reverse]

/-- A text is its trimmed form between white space. -/
theorem exists_trim (s : List Char) :
    ∃ w w', allBlank w = true ∧ allBlank w' = true ∧ s = w ++ (trim s ++ w') := by
  refine ⟨s.takeWhile isBlank, ((trimStart s).reverse.takeWhile isBlank).reverse, ?_, ?_, ?_⟩
  · exact allBlank_takeWhile s
  · rw [allBlank_reverse]
    exact allBlank_takeWhile _
  · rw [trim, trimEnd, ← List.reverse_append, List.takeWhile_append_dropWhile, List.reverse_reverse]
    exact (List.takeWhile_append_dropWhile).symm

theorem length_trim_le (s : List Char) : (trim s).length ≤ s.length := by
  obtain ⟨w, w', -, -, hs⟩ := exists_trim s
  have hlength := congrArg List.length hs
  simp only [List.length_append] at hlength
  omega

theorem trim_append_left (hw : allBlank w = true) (s : List Char) : trim (w ++ s) = trim s := by
  obtain ⟨u, u', hu, hu', hs⟩ := exists_trim s
  have hwu : allBlank (w ++ u) = true := by rw [allBlank_append, hw, hu]; rfl
  conv_lhs => rw [hs, ← List.append_assoc]
  exact trim_between hwu (trimmed_trim s) hu'

theorem trim_append_right (hw : allBlank w = true) (s : List Char) : trim (s ++ w) = trim s := by
  obtain ⟨u, u', hu, hu', hs⟩ := exists_trim s
  have huw : allBlank (u' ++ w) = true := by rw [allBlank_append, hu', hw]; rfl
  conv_lhs => rw [hs, List.append_assoc, List.append_assoc]
  exact trim_between hu (trimmed_trim s) huw

theorem trim_eq_nil_iff : trim s = [] ↔ allBlank s = true := by
  constructor
  · intro h
    obtain ⟨w, w', hw, hw', hs⟩ := exists_trim s
    rw [hs, h, allBlank_append, hw]
    exact hw'
  · intro h
    have hnil := trim_between (s := []) h rfl allBlank_nil
    simpa using hnil

theorem allBlank_trim : allBlank (trim s) = allBlank s := by
  rw [Bool.eq_iff_iff, ← trim_eq_nil_iff, ← trim_eq_nil_iff, trimmed_trim s]

theorem trim_trimStart (s : List Char) : trim (trimStart s) = trim s := by
  conv_rhs => rw [← List.takeWhile_append_dropWhile (p := isBlank) (l := s)]
  exact (trim_append_left (allBlank_takeWhile s) _).symm

/-- A text is its end-trimmed form before white space. -/
theorem exists_trimEnd (s : List Char) : ∃ w, allBlank w = true ∧ s = trimEnd s ++ w := by
  refine ⟨(s.reverse.takeWhile isBlank).reverse, ?_, ?_⟩
  · rw [allBlank_reverse]
    exact allBlank_takeWhile _
  · rw [trimEnd, ← List.reverse_append, List.takeWhile_append_dropWhile, List.reverse_reverse]

theorem trim_trimEnd (s : List Char) : trim (trimEnd s) = trim s := by
  obtain ⟨w, hw, hs⟩ := exists_trimEnd s
  conv_rhs => rw [hs]
  exact (trim_append_right hw _).symm

/-- On either side of a character that is no white space a text is trimmed by itself. -/
theorem trim_append_cons (hc : isBlank c = false) (s t : List Char) :
    trim (s ++ c :: t) = trimStart s ++ c :: trimEnd t := by
  obtain ⟨w, hw, ht⟩ := exists_trimEnd t
  have hmiddle : Trimmed (trimStart s ++ c :: trimEnd t) := by
    refine trimmed_of_stops ?_ ?_
    · cases hs : trimStart s with
      | nil => exact stops_cons.mpr hc
      | cons d rest =>
        have hd := stops_dropWhile (p := isBlank) s
        rw [trimStart] at hs
        rw [hs] at hd
        exact stops_cons.mpr (stops_cons.mp hd)
    · have hend : Stops isBlank (trimEnd t).reverse := by
        rw [trimEnd, List.reverse_reverse]
        exact stops_dropWhile _
      rw [List.reverse_append, List.reverse_cons, List.append_assoc, List.singleton_append]
      cases hrev : (trimEnd t).reverse with
      | nil => exact stops_cons.mpr hc
      | cons d rest => exact stops_cons.mpr (stops_cons.mp (hrev ▸ hend))
  have hsplit : s ++ c :: t =
      s.takeWhile isBlank ++ ((trimStart s ++ c :: trimEnd t) ++ w) := by
    calc s ++ c :: t = (s.takeWhile isBlank ++ trimStart s) ++ c :: (trimEnd t ++ w) := by
          rw [trimStart, List.takeWhile_append_dropWhile, ← ht]
      _ = s.takeWhile isBlank ++ ((trimStart s ++ c :: trimEnd t) ++ w) := by simp
  rw [hsplit]
  exact trim_between (allBlank_takeWhile s) hmiddle hw

/-- A text ends in a character that is no white space just when its trimmed form does and no white
    space stands behind that. -/
theorem getLast?_eq_some_iff_trim (hc : isBlank c = false) :
    s.getLast? = some c ↔
      (trim s).getLast? = some c ∧ ¬∃ b, s.getLast? = some b ∧ isBlank b = true := by
  constructor
  · intro hlast
    obtain ⟨front, rfl⟩ := List.getLast?_eq_some_iff.mp hlast
    refine ⟨?_, ?_⟩
    · rw [trim_append_cons hc, trimEnd]
      exact List.getLast?_concat
    · rintro ⟨b, hb, hblank⟩
      rw [hlast, Option.some_inj] at hb
      rw [← hb, hc] at hblank
      cases hblank
  · rintro ⟨htrim, hend⟩
    obtain ⟨w, w', -, hw', hs⟩ := exists_trim s
    -- The white space dropped at the end would hold the last character of the text.
    have hnil : w' = [] := by
      by_contra hne
      have hlast : s.getLast? = some (w'.getLast hne) := by
        rw [hs, List.getLast?_append, List.getLast?_append, List.getLast?_eq_some_getLast hne]
        rfl
      exact hend ⟨_, hlast, allBlank_iff.mp hw' _ (List.getLast_mem hne)⟩
    rw [hs, hnil, List.append_nil, List.getLast?_append, htrim]
    rfl

/-- A character that is no white space is not lost. -/
theorem mem_trim_iff (hc : isBlank c = false) : c ∈ trim s ↔ c ∈ s := by
  obtain ⟨w, w', hw, hw', hs⟩ := exists_trim s
  have hnot : ∀ {u : List Char}, allBlank u = true → c ∉ u := by
    intro u hu hmem
    rw [allBlank_iff.mp hu c hmem] at hc
    cases hc
  conv_rhs => rw [hs]
  simp [hnot hw, hnot hw']

/-- What a trimmed text ends with is not all white space. -/
theorem Trimmed.allBlank_suffix (h : Trimmed (s ++ t)) (ht : t ≠ []) : allBlank t = false := by
  rw [Bool.eq_false_iff]
  intro hblank
  obtain ⟨c, rest, hrev⟩ := List.exists_cons_of_ne_nil (List.reverse_ne_nil_iff.mpr ht)
  have hstops := h.stops_reverse
  rw [List.reverse_append, hrev, List.cons_append, stops_cons] at hstops
  have hc : c ∈ t := List.mem_reverse.mp (hrev ▸ List.mem_cons_self)
  rw [allBlank_iff.mp hblank c hc] at hstops
  cases hstops

/-- The first word of a text is what stands before the first white space. -/
theorem firstWord_append (hne : s ≠ []) (hs : ∀ c ∈ s, isBlank c = false)
    (ht : Stops (!isBlank ·) t) : firstWord (s ++ t) = s := by
  have hstart : trimStart (s ++ t) = s ++ t := (stops_append hne hs t).dropWhile
  have hall : ∀ c ∈ s, (!isBlank c) = true := by simpa using hs
  rw [firstWord, hstart, takeWhile_append_stops ht, List.takeWhile_eq_self_iff.mpr hall]

/-! ### Texts that are trimmed and not empty -/

/-- A text that says something: not empty, and without white space around it. -/
def Filled (s : List Char) : Prop := s ≠ [] ∧ Trimmed s

theorem filled_trim (h : allBlank s = false) : Filled (trim s) := by
  refine ⟨fun hnil => ?_, trimmed_trim s⟩
  rw [trim_eq_nil_iff, h] at hnil
  cases hnil

theorem Filled.not_blank (h : Filled s) : allBlank s = false := by
  rw [Bool.eq_false_iff]
  intro hblank
  exact h.1 (h.2.symm.trans (trim_eq_nil_iff.mpr hblank))

end Issuance.Text

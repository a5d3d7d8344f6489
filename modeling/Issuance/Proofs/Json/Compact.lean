import Issuance.Json.Printer
import Issuance.Proofs.Json.Reading

/-! # The compact form is a text of its value

    What a printer writes is a text that the grammar gives for the value, with every character in
    its canonical spelling, as far as numbers are read back from their written forms. That is no law
    for all numbers, since a reader may round a magnitude once more than a printer counts with. -/

namespace Issuance.Json

/-- A number that is read back from its written form. -/
def Number.ReadsBack (n : Number) : Prop := parse n.text = .ok (.number n)

/-! ### The characters of written numbers -/

theorem isDigit_of_mem_digitsOf {n : Nat} {c : Char} (h : c ∈ digitsOf n) : isDigit c = true := by
  have hc := Nat.isDigit_of_mem_toDigits (by decide) (by decide) h
  simpa [Char.isDigit, isDigit, Char.le_def] using hc

theorem isNumeric_of_isDigit {c : Char} (h : isDigit c = true) : isNumeric c = true := by
  simp [isNumeric, h]

theorem isNumeric_of_mem_integerText {n : Int} {c : Char} (h : c ∈ integerText n) :
    isNumeric c = true := by
  cases n with
  | ofNat n => exact isNumeric_of_isDigit (isDigit_of_mem_digitsOf h)
  | negSucc n =>
    rcases List.mem_cons.mp h with rfl | h
    · decide
    · exact isNumeric_of_isDigit (isDigit_of_mem_digitsOf h)

theorem isNumeric_of_mem_plainText {digits : List Char} {k : Int}
    (hdigits : ∀ c ∈ digits, isNumeric c = true) :
    ∀ c ∈ plainText digits k, isNumeric c = true := by
  have hzero : isNumeric '0' = true := by decide
  have hpoint : isNumeric '.' = true := by decide
  intro c hc
  unfold plainText at hc
  split_ifs at hc
  · simp only [List.mem_append, List.mem_cons, List.mem_replicate] at hc
    rcases hc with (rfl | rfl | ⟨_, rfl⟩) | hc
    · exact hzero
    · exact hpoint
    · exact hzero
    · exact hdigits c hc
  · simp only [List.mem_append, List.mem_cons, List.mem_replicate, List.not_mem_nil, or_false] at hc
    rcases hc with (hc | ⟨_, rfl⟩) | rfl | rfl
    · exact hdigits c hc
    · exact hzero
    · exact hpoint
    · exact hzero
  · simp only [List.mem_append, List.mem_cons] at hc
    rcases hc with hc | rfl | hc
    · exact hdigits c (List.mem_of_mem_take hc)
    · exact hpoint
    · exact hdigits c (List.mem_of_mem_drop hc)

theorem isNumeric_of_mem_exponentText {digits : List Char} {power : Int}
    (hdigits : ∀ c ∈ digits, isNumeric c = true) :
    ∀ c ∈ exponentText digits power, isNumeric c = true := by
  intro c hc
  have htail : ∀ mantissa : List Char, (∀ d ∈ mantissa, isNumeric d = true) →
      c ∈ mantissa ++ 'e' :: (if power < 0 then '-' else '+') :: digitsOf power.natAbs →
      isNumeric c = true := by
    intro mantissa hmantissa hmem
    simp only [List.mem_append, List.mem_cons] at hmem
    rcases hmem with h | rfl | rfl | h
    · exact hmantissa c h
    · decide
    · split_ifs <;> decide
    · exact isNumeric_of_isDigit (isDigit_of_mem_digitsOf h)
  unfold exponentText at hc
  refine htail _ ?_ hc
  split
  · simp
  · exact hdigits
  · next d rest _ =>
    intro e he
    simp only [List.mem_cons] at he
    rcases he with rfl | rfl | he
    · exact hdigits e List.mem_cons_self
    · decide
    · exact hdigits e (List.mem_cons_of_mem d he)

theorem isNumeric_of_mem_magnitudeText {x : Magnitude} {c : Char} (h : c ∈ x.text) :
    isNumeric c = true := by
  have hdigits : ∀ d ∈ digitsOf x.shortest.digits, isNumeric d = true := fun d hd =>
    isNumeric_of_isDigit (isDigit_of_mem_digitsOf hd)
  unfold Magnitude.text at h
  split_ifs at h
  · simp only [List.mem_cons, List.not_mem_nil, or_false] at h
    rcases h with rfl | rfl | rfl <;> decide
  · dsimp only [Decimal.text] at h
    split_ifs at h
    · exact isNumeric_of_mem_plainText hdigits c h
    · exact isNumeric_of_mem_exponentText hdigits c h

/-- A number is written with the characters of number literals. -/
theorem isNumeric_of_mem_text {n : Number} {c : Char} (h : c ∈ n.text) : isNumeric c = true := by
  cases n with
  | whole n => exact isNumeric_of_mem_integerText h
  | float negative x =>
    rw [Number.text] at h
    split_ifs at h
    · rcases List.mem_cons.mp h with rfl | h
      · decide
      · exact isNumeric_of_mem_magnitudeText h
    · exact isNumeric_of_mem_magnitudeText h

theorem isSpace_of_isNumeric {c : Char} (h : isNumeric c = true) : isSpace c = false := by
  by_contra hspace
  simp only [isSpace, Bool.not_eq_false, Bool.or_eq_true, beq_iff_eq] at hspace
  rcases hspace with ((rfl | rfl) | rfl) | rfl <;> exact absurd h (by decide)

theorem eq_nil_of_blank_of_numeric {w : List Char} (hw : Blank w)
    (h : ∀ c ∈ w, isNumeric c = true) : w = [] := by
  cases w with
  | nil => rfl
  | cons c rest =>
    have hc := isSpace_of_isNumeric (h c List.mem_cons_self)
    rw [hw c List.mem_cons_self] at hc
    cases hc

/-- A number that is read back is written as a literal of it. -/
theorem Number.ReadsBack.numeral {n : Number} (h : n.ReadsBack) : Numeral n n.text := by
  obtain ⟨raw, ⟨w, s, w', hw, hs, hw', htext⟩, _, hmerged⟩ := parse_eq_ok_iff.mp h
  have hnumeric : ∀ c ∈ w ++ (s ++ w'), isNumeric c = true := fun c hc =>
    isNumeric_of_mem_text (htext ▸ hc)
  have hw_nil := eq_nil_of_blank_of_numeric hw fun c hc => hnumeric c (by simp [hc])
  have hw'_nil := eq_nil_of_blank_of_numeric hw' fun c hc => hnumeric c (by simp [hc])
  subst hw_nil hw'_nil
  cases hs <;> simp only [merged] at hmerged <;> cases hmerged
  simpa [htext] using ‹Numeral n s›

/-! ### Values -/

mutual

/-- The compact form of a value is one of its texts. -/
theorem derives_compact : ∀ {v : Json}, (∀ n, .number n ∈ v.leaves → n.ReadsBack) →
    Derives .Canonical (.value v) v.compact
  | .null, _ => .null
  | .bool b, _ => .bool b
  | .number n, h => .number (h n (by simp [leaves])).numeral
  | .string s, _ => by
    have hstring := Derives.string (Literal.escape s.toList)
    rwa [String.ofList_toList] at hstring
  | .array items, h => .array (derives_compactItems h)
  | .object members, h => .object (derives_compactMembers h)

theorem derives_compactItems : ∀ {items : List Json},
    (∀ n, .number n ∈ itemLeaves items → n.ReadsBack) →
      Derives .Canonical (.items true items) (compactItems items ++ [']'])
  | [], _ => .lastItem blank_nil
  | [v], h =>
    .item (.first blank_nil) (derives_compact fun n hn => h n (by simp [itemLeaves, hn]))
      (.lastItem blank_nil)
  | v :: w :: rest, h => by
    have hv : Derives .Canonical (.value v) v.compact :=
      derives_compact fun n hn => h n (by simp [itemLeaves, hn])
    have hrest : Derives .Canonical (.items true (w :: rest)) (compactItems (w :: rest) ++ [']']) :=
      derives_compactItems fun n hn => h n (by rw [itemLeaves]; exact List.mem_append_right _ hn)
    rw [compactItems, List.append_assoc, List.cons_append]
    exact .item (.first blank_nil) hv hrest.comma_items

theorem derives_compactMembers : ∀ {members : List (String × Json)},
    (∀ n, .number n ∈ memberLeaves members → n.ReadsBack) →
      Derives .Canonical (.members true members) (compactMembers members ++ ['}'])
  | [], _ => .lastMember blank_nil
  | [(name, v)], h => by
    have hv : Derives .Canonical (.value v) v.compact :=
      derives_compact fun n hn => h n (by simp [memberLeaves, hn])
    have hmember := Derives.member (.first blank_nil) (Literal.escape name.toList) blank_nil
      blank_nil hv (.lastMember blank_nil)
    simpa [compactMembers, quote] using hmember
  | (name, v) :: m :: rest, h => by
    have hv : Derives .Canonical (.value v) v.compact :=
      derives_compact fun n hn => h n (by simp [memberLeaves, hn])
    have hrest : Derives .Canonical (.members true (m :: rest))
        (compactMembers (m :: rest) ++ ['}']) :=
      derives_compactMembers fun n hn => h n (by
        obtain ⟨name', v'⟩ := m
        rw [memberLeaves]
        exact List.mem_cons_of_mem _ (List.mem_append_right _ hn))
    have hmember := Derives.member (.first blank_nil) (Literal.escape name.toList) blank_nil
      blank_nil hv hrest.comma_members
    simpa [compactMembers, quote] using hmember

end

/-- A value is written by its compact form, as far as its numbers are read back. -/
theorem writes_compact {v : Json} (h : ∀ n, .number n ∈ v.leaves → n.ReadsBack) :
    Writes .Accepted v v.compact :=
  ⟨[], _, [], blank_nil, (derives_compact h).mono fun _ _ => accepted_of_canonical, blank_nil,
    by rw [List.nil_append, List.append_nil]⟩

end Issuance.Json

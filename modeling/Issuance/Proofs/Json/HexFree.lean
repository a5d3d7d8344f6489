import Issuance.Proofs.Json.Reading

/-! # Texts without hexadecimal escapes

    A text that is walked from the left, an escape at a time, shows whether it holds a hexadecimal
    escape. Outside string literals a JSON text holds no backslash, so the walk meets each escape of
    a literal at its start, and a text without hexadecimal escapes spells every character by itself
    or by a short escape. -/

namespace Issuance.Json

/-- A text in which no hexadecimal escape is met. -/
def hexFree : List Char → Bool
  | [] => true
  | c :: rest =>
    if c = '\\' then
      match rest with
      | [] => true
      | e :: rest₁ => e ≠ 'u' && hexFree rest₁
    else hexFree rest

variable {ph : Phrase} {s t lit : List Char}

theorem hexFree_cons {c : Char} (h : c ≠ '\\') (t : List Char) :
    hexFree (c :: t) = hexFree t := by
  rw [hexFree.eq_def]
  exact if_neg h

theorem hexFree_append : ∀ {s : List Char}, '\\' ∉ s → ∀ t, hexFree (s ++ t) = hexFree t
  | [], _, _ => rfl
  | c :: rest, h, t => by
    rw [List.mem_cons, not_or] at h
    rw [List.cons_append, hexFree_cons fun heq => h.1 heq.symm, hexFree_append h.2]

/-- A literal without hexadecimal escapes is a short one. -/
theorem short_literal (h : Literal .Accepted s lit) :
    ∀ {t}, hexFree (lit ++ t) = true → Literal .Short s lit ∧ hexFree t = true := by
  induction h with
  | nil => exact fun ht => ⟨.nil, ht⟩
  | @cons c w s lit hc _ ih =>
    intro t ht
    rw [List.append_assoc] at ht
    cases hc with
    | raw hquote hslash hcontrol =>
      rw [List.singleton_append, hexFree_cons hslash] at ht
      obtain ⟨hlit, ht⟩ := ih ht
      exact ⟨.cons (.raw hquote hslash hcontrol) hlit, ht⟩
    | short he =>
      obtain ⟨hlit, ht⟩ := ih (by simpa [hexFree, unescape_ne_u he] using ht)
      exact ⟨.cons (.short he) hlit, ht⟩
    | hex _ _ _ => simp [hexFree] at ht
    | pair _ _ _ _ _ => simp [hexFree] at ht

theorem Blank.no_slash {w : List Char} (h : Blank w) : '\\' ∉ w :=
  fun hmem => absurd (h _ hmem) (by decide)

theorem Lead.no_slash {first : Bool} {w : List Char} (h : Lead first w) : '\\' ∉ w := by
  intro hmem
  rcases h.isSpace_or_comma hmem with hspace | hcomma
  · exact absurd hspace (by decide)
  · exact absurd hcomma (by decide)

/-- What the grammar gives without hexadecimal escapes is given with short spellings. -/
theorem short_derives (h : Derives .Accepted ph s) :
    ∀ {t}, hexFree (s ++ t) = true → Derives .Short ph s ∧ hexFree t = true := by
  induction h with
  | null => exact fun ht => ⟨.null, by rwa [hexFree_append (by decide)] at ht⟩
  | bool b => exact fun ht => ⟨.bool b, by rwa [hexFree_append (by cases b <;> decide)] at ht⟩
  | number hn =>
    refine fun ht => ⟨.number hn, ?_⟩
    rwa [hexFree_append fun hmem => absurd (hn.forall_isNumeric _ hmem) (by decide)] at ht
  | string hlit =>
    intro t ht
    rw [List.cons_append, List.append_assoc, hexFree_cons (by decide)] at ht
    obtain ⟨hshort, ht⟩ := short_literal hlit ht
    exact ⟨.string hshort, by rwa [List.singleton_append, hexFree_cons (by decide)] at ht⟩
  | array _ ih =>
    intro t ht
    rw [List.cons_append, hexFree_cons (by decide)] at ht
    exact (ih ht).imp_left .array
  | object _ ih =>
    intro t ht
    rw [List.cons_append, hexFree_cons (by decide)] at ht
    exact (ih ht).imp_left .object
  | lastItem hw =>
    intro t ht
    rw [List.append_assoc, hexFree_append hw.no_slash, List.singleton_append,
      hexFree_cons (by decide)] at ht
    exact ⟨.lastItem hw, ht⟩
  | item hw _ _ ihv ihvs =>
    intro t ht
    rw [List.append_assoc, List.append_assoc, hexFree_append hw.no_slash] at ht
    obtain ⟨hv, ht⟩ := ihv ht
    obtain ⟨hvs, ht⟩ := ihvs ht
    exact ⟨.item hw hv hvs, ht⟩
  | lastMember hw =>
    intro t ht
    rw [List.append_assoc, hexFree_append hw.no_slash, List.singleton_append,
      hexFree_cons (by decide)] at ht
    exact ⟨.lastMember hw, ht⟩
  | member hw hlit hw₁ hw₂ _ _ ihv ihms =>
    intro t ht
    simp only [List.append_assoc, List.cons_append] at ht
    rw [hexFree_append hw.no_slash, hexFree_cons (by decide)] at ht
    obtain ⟨hshort, ht⟩ := short_literal hlit ht
    rw [hexFree_cons (by decide), hexFree_append hw₁.no_slash, hexFree_cons (by decide),
      hexFree_append hw₂.no_slash] at ht
    obtain ⟨hv, ht⟩ := ihv ht
    obtain ⟨hms, ht⟩ := ihms ht
    exact ⟨.member hw hshort hw₁ hw₂ hv hms, ht⟩

/-- A text of a value without hexadecimal escapes is written with short spellings. -/
theorem short_writes {v : Json} {text : List Char} (h : Writes .Accepted v text)
    (hfree : hexFree text = true) : Writes .Short v text := by
  obtain ⟨w, s, w', hw, hs, hw', rfl⟩ := h
  rw [hexFree_append hw.no_slash] at hfree
  exact ⟨w, s, w', hw, (short_derives hs hfree).1, hw', rfl⟩

end Issuance.Json

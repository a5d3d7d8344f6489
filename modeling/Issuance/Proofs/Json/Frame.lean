import Issuance.Proofs.Json.Respacing

/-! # A value in place of a null

    Where a null of a JSON text stands outside of all string literals, the text is a frame around
    it: the arrays and objects that hold the null, with all that stands beside it in them. Any text
    of a value can take the place of the null, and the whole is then a text of the frame with the
    value in it. Which null it is, is told by the text before it alone. The text is walked from the
    left, token by token: no token but a string literal and a null holds the letter that a null
    starts with. -/

namespace Issuance.Json

/-! ### Frames -/

/-- A value with one place left open. -/
inductive Frame where
  | here
  | array (before : List Json) (inner : Frame) (after : List Json)
  | object (before : List (String × Json)) (name : String) (inner : Frame)
      (after : List (String × Json))

namespace Frame

/-- The frame with a value in its place. -/
def plug : Frame → Json → Json
  | here, v => v
  | array before inner after, v => .array (before ++ inner.plug v :: after)
  | object before name inner after, v => .object (before ++ (name, inner.plug v) :: after)

/-- Two texts between which every text of a value makes a text of the frame with the value. -/
def Between (f : Frame) (p q : List Char) : Prop :=
  ∀ ⦃v : Json⦄ ⦃s : List Char⦄, Derives .Accepted (.value v) s →
    Writes .Accepted (f.plug v) (p ++ (s ++ q))

end Frame

theorem distinctItems_append_cons {before : List Json} {v : Json} {after : List Json} :
    DistinctItems (before ++ v :: after) ↔
      DistinctItems before ∧ v.Distinct ∧ DistinctItems after := by
  induction before with
  | nil => simp [DistinctItems]
  | cons w before ih => simp only [List.cons_append, DistinctItems, ih, and_assoc]

theorem distinctMembers_append_cons {before : List (String × Json)} {name : String} {v : Json}
    {after : List (String × Json)} : DistinctMembers (before ++ (name, v) :: after) ↔
      DistinctMembers before ∧ v.Distinct ∧ DistinctMembers after := by
  induction before with
  | nil => simp [DistinctMembers]
  | cons m before ih => simp only [List.cons_append, DistinctMembers, ih, and_assoc]

/-- Another value in the place of a frame repeats no name that the frame does not repeat. -/
theorem Frame.distinct_plug {v w : Json} (hv : v.Distinct) : ∀ {f : Frame},
    (f.plug w).Distinct → (f.plug v).Distinct
  | .here, _ => hv
  | .array before inner after, h => by
    obtain ⟨hbefore, hinner, hafter⟩ := distinctItems_append_cons.mp h
    exact distinctItems_append_cons.mpr ⟨hbefore, inner.distinct_plug hv hinner, hafter⟩
  | .object before name inner after, ⟨hnames, h⟩ => by
    obtain ⟨hbefore, hinner, hafter⟩ := distinctMembers_append_cons.mp h
    refine ⟨?_, distinctMembers_append_cons.mpr
      ⟨hbefore, inner.distinct_plug hv hinner, hafter⟩⟩
    simpa [Object.names] using hnames

/-- A frame whose place is in an object is an object, whatever stands there. -/
theorem Frame.exists_object_plug {members : Object} {v w : Json} {f : Frame}
    (h : f.plug w = .object members) (hw : ∀ members, w ≠ .object members) :
    ∃ body, f.plug v = .object body := by
  cases f with
  | here => exact absurd h (hw members)
  | array before inner after => cases h
  | object before name inner after => exact ⟨_, rfl⟩

/-! ### Inside and outside of string literals -/

/-- Whether a text ends inside a string literal, if it starts inside one or outside. -/
def endsQuoted : Bool → List Char → Bool
  | quoted, [] => quoted
  | quoted, c :: rest =>
    if quoted && c == '\\' then
      match rest with
      | [] => true
      | _ :: rest₁ => endsQuoted true rest₁
    else if c = '"' then endsQuoted (!quoted) rest
    else endsQuoted quoted rest

variable {ph : Phrase} {p q s t u w lit : List Char} {c : Char}

theorem endsQuoted_cons (hquote : c ≠ '"') (hslash : c ≠ '\\') (quoted : Bool) (t : List Char) :
    endsQuoted quoted (c :: t) = endsQuoted quoted t := by
  rw [endsQuoted.eq_def]
  simp [hquote, hslash]

theorem endsQuoted_false_cons (hquote : c ≠ '"') (t : List Char) :
    endsQuoted false (c :: t) = endsQuoted false t := by
  rw [endsQuoted.eq_def]
  simp [hquote]

theorem endsQuoted_quote (quoted : Bool) (t : List Char) :
    endsQuoted quoted ('"' :: t) = endsQuoted (!quoted) t := by
  rw [endsQuoted.eq_def]
  simp

/-- A stretch inside a literal: a text that reaches it and ends outside goes over it. -/
def Passed (w : List Char) : Prop :=
  ∀ ⦃x p y : List Char⦄, w ++ x = p ++ y → endsQuoted true p = false →
    ∃ p', p = w ++ p' ∧ x = p' ++ y ∧ endsQuoted true p' = false

theorem Passed.append (hw : Passed w) (ht : Passed t) : Passed (w ++ t) := by
  intro x p y h hp
  rw [List.append_assoc] at h
  obtain ⟨p', rfl, h', hp'⟩ := hw h hp
  obtain ⟨p'', rfl, h'', hp''⟩ := ht h' hp'
  exact ⟨p'', (List.append_assoc w t p'').symm, h'', hp''⟩

theorem passed_nil : Passed [] := fun _ p _ h hp => ⟨p, rfl, h, hp⟩

theorem passed_singleton (hquote : c ≠ '"') (hslash : c ≠ '\\') : Passed [c] := by
  intro x p y h hp
  cases p with
  | nil => cases hp
  | cons d p' =>
    obtain ⟨rfl, htail⟩ := List.cons.inj h
    rw [endsQuoted_cons hquote hslash] at hp
    exact ⟨p', rfl, htail, hp⟩

theorem passed_escape (e : Char) : Passed ['\\', e] := by
  intro x p y h hp
  rcases p with _ | ⟨d, _ | ⟨e', p'⟩⟩
  · cases hp
  · obtain rfl : '\\' = d := (List.cons.inj h).1
    cases hp
  · obtain ⟨rfl, htail⟩ := List.cons.inj h
    obtain ⟨rfl, htail'⟩ := List.cons.inj htail
    exact ⟨p', rfl, htail', hp⟩

theorem passed_of_hexQuad {h₁ h₂ h₃ h₄ : Char} {n : Nat} (h : hexQuad h₁ h₂ h₃ h₄ = some n) :
    Passed ['\\', 'u', h₁, h₂, h₃, h₄] := by
  have hdigit : ∀ d ∈ [h₁, h₂, h₃, h₄], Passed [d] := by
    intro d hd
    refine passed_singleton ?_ ?_
    · rintro rfl
      exact not_mem_of_hexQuad h (by decide) hd
    · rintro rfl
      exact not_mem_of_hexQuad h (by decide) hd
  simp only [List.forall_mem_cons] at hdigit
  obtain ⟨hd₁, hd₂, hd₃, hd₄, -⟩ := hdigit
  exact (passed_escape 'u').append (hd₁.append (hd₂.append (hd₃.append hd₄)))

theorem passed_of_accepted (h : Spelling.Accepted c w) : Passed w := by
  cases h with
  | raw hquote hslash _ => exact passed_singleton hquote hslash
  | short _ => exact passed_escape _
  | hex hn _ _ => exact passed_of_hexQuad hn
  | pair hn _ _ hm _ => exact (passed_of_hexQuad hn).append (passed_of_hexQuad hm)

theorem passed_literal (h : Literal .Accepted s lit) : Passed lit := by
  induction h with
  | nil => exact passed_nil
  | cons hc _ ih => exact (passed_of_accepted hc).append ih

/-! ### Tokens before a null -/

/-- A stretch of tokens that are neither string literals nor nulls. -/
def Plain (w : List Char) : Prop := '"' ∉ w ∧ 'n' ∉ w

theorem plain_singleton (hquote : c ≠ '"') (hletter : c ≠ 'n') : Plain [c] :=
  ⟨fun hmem => hquote (List.mem_singleton.mp hmem).symm,
    fun hmem => hletter (List.mem_singleton.mp hmem).symm⟩

theorem Plain.append (hw : Plain w) (ht : Plain t) : Plain (w ++ t) := by
  simp only [Plain, List.mem_append, not_or] at hw ht ⊢
  exact ⟨⟨hw.1, ht.1⟩, hw.2, ht.2⟩

theorem Blank.plain (h : Blank w) : Plain w :=
  ⟨fun hmem => absurd (h _ hmem) (by decide), fun hmem => absurd (h _ hmem) (by decide)⟩

theorem Lead.plain {first : Bool} (h : Lead first w) : Plain w := by
  have hchar : ∀ c ∈ w, c ≠ '"' ∧ c ≠ 'n' := by
    intro c hc
    rcases h.isSpace_or_comma hc with hspace | rfl
    · constructor <;> rintro rfl <;> exact absurd hspace (by decide)
    · decide
  exact ⟨fun hmem => (hchar _ hmem).1 rfl, fun hmem => (hchar _ hmem).2 rfl⟩

/-- A text that reaches such a stretch and ends outside, before a null, goes over it. -/
theorem Plain.exists_behind : ∀ {w p : List Char}, Plain w → w ++ u = p ++ ("null".toList ++ q) →
    endsQuoted false p = false →
      ∃ p', p = w ++ p' ∧ u = p' ++ ("null".toList ++ q) ∧ endsQuoted false p' = false
  | [], p, _, h, hp => ⟨p, rfl, h, hp⟩
  | c :: w, [], hw, h, _ => by
    obtain rfl : c = 'n' := (List.cons.inj h).1
    exact absurd List.mem_cons_self hw.2
  | c :: w, d :: p, ⟨hquote, hletter⟩, h, hp => by
    obtain ⟨rfl, htail⟩ := List.cons.inj h
    rw [List.mem_cons, not_or] at hquote hletter
    rw [endsQuoted_false_cons (Ne.symm hquote.1)] at hp
    obtain ⟨p', rfl, htext, hp'⟩ := exists_behind ⟨hquote.2, hletter.2⟩ htail hp
    exact ⟨p', rfl, htext, hp'⟩

/-- A text that reaches a string literal and ends outside, before a null, goes over it. -/
theorem Literal.exists_behind (h : Literal .Accepted s lit)
    (htext : '"' :: (lit ++ '"' :: u) = p ++ ("null".toList ++ q)) (hp : endsQuoted false p = false) :
    ∃ p', p = '"' :: (lit ++ '"' :: p') ∧ u = p' ++ ("null".toList ++ q) ∧
      endsQuoted false p' = false := by
  cases p with
  | nil => exact absurd (List.cons.inj htext).1 (by decide)
  | cons d p =>
    obtain ⟨rfl, hlit⟩ := List.cons.inj htext
    rw [endsQuoted_quote] at hp
    obtain ⟨p', rfl, hquote, hp'⟩ := passed_literal h hlit hp
    cases p' with
    | nil => cases hp'
    | cons d rest =>
      obtain ⟨rfl, hrest⟩ := List.cons.inj hquote
      rw [endsQuoted_quote] at hp'
      exact ⟨rest, rfl, hrest, hp'⟩

/-! ### Phrases with an open place -/

/-- A phrase whose text has a null between two texts: its frame, such that every text of a value
    between the two makes a text of the frame with the value. -/
def Phrase.Opens (p q : List Char) : Phrase → Prop
  | .value v => ∃ f : Frame, v = f.plug .null ∧ ∀ ⦃w s⦄, Derives .Accepted (.value w) s →
      Derives .Accepted (.value (f.plug w)) (p ++ (s ++ q))
  | .items first vs => ∃ before, ∃ f : Frame, ∃ after, vs = before ++ f.plug .null :: after ∧
      ∀ ⦃w s⦄, Derives .Accepted (.value w) s →
        Derives .Accepted (.items first (before ++ f.plug w :: after)) (p ++ (s ++ q))
  | .members first ms => ∃ before name, ∃ f : Frame, ∃ after,
      ms = before ++ (name, f.plug .null) :: after ∧
      ∀ ⦃w s⦄, Derives .Accepted (.value w) s →
        Derives .Accepted (.members first (before ++ (name, f.plug w) :: after)) (p ++ (s ++ q))

/-- A text of a phrase is reached by a text that ends outside of literals before a null: the null
    stands in the phrase and opens it, or the text goes over the phrase. -/
def Phrase.Reached (ph : Phrase) (s : List Char) : Prop :=
  ∀ ⦃u p q : List Char⦄, s ++ u = p ++ ("null".toList ++ q) → endsQuoted false p = false →
    (∃ q', q = q' ++ u ∧ ph.Opens p q') ∨
      ∃ p', p = s ++ p' ∧ u = p' ++ ("null".toList ++ q) ∧ endsQuoted false p' = false

theorem Phrase.Reached.of_plain (h : Plain s) : ph.Reached s :=
  fun _ _ _ htext hp => .inr (h.exists_behind htext hp)

theorem reached_null : (Phrase.value .null).Reached "null".toList := by
  intro u p q htext hp
  cases p with
  | nil =>
    refine .inl ⟨[], (List.append_cancel_left htext).symm, .here, rfl, fun w s hs => ?_⟩
    rwa [List.append_nil]
  | cons c p =>
    -- Its other letters are none that a null starts with, so no null starts within a null.
    obtain ⟨rfl, htail⟩ := List.cons.inj htext
    rw [endsQuoted_false_cons (by decide)] at hp
    have hplain : Plain "ull".toList := by constructor <;> decide
    obtain ⟨p', rfl, hrest, hp'⟩ := hplain.exists_behind htail hp
    exact .inr ⟨p', rfl, hrest, hp'⟩

section
variable {first : Bool} {v : Json} {vs : List Json} {ms : List (String × Json)}
  {name w₁ w₂ : List Char}

theorem reached_array (h : (Phrase.items true vs).Reached s) :
    (Phrase.value (.array vs)).Reached ('[' :: s) := by
  intro u p q htext hp
  obtain ⟨p', rfl, hrest, hp'⟩ :=
    (plain_singleton (by decide) (by decide) : Plain ['[']).exists_behind htext hp
  rcases h hrest hp' with ⟨q', rfl, before, f, after, rfl, hf⟩ | ⟨p'', rfl, hbehind, hp''⟩
  · exact .inl ⟨q', rfl, .array before f after, rfl, fun w s hs => .array (hf hs)⟩
  · exact .inr ⟨p'', rfl, hbehind, hp''⟩

theorem reached_object (h : (Phrase.members true ms).Reached s) :
    (Phrase.value (.object ms)).Reached ('{' :: s) := by
  intro u p q htext hp
  obtain ⟨p', rfl, hrest, hp'⟩ :=
    (plain_singleton (by decide) (by decide) : Plain ['{']).exists_behind htext hp
  rcases h hrest hp' with ⟨q', rfl, before, name, f, after, rfl, hf⟩ | ⟨p'', rfl, hbehind, hp''⟩
  · exact .inl ⟨q', rfl, .object before name f after, rfl, fun w s hs => .object (hf hs)⟩
  · exact .inr ⟨p'', rfl, hbehind, hp''⟩

/-- The null stands in the item, or in the items behind it. -/
theorem reached_item (hw : Lead first w) (hv : Derives .Accepted (.value v) s)
    (hvs : Derives .Accepted (.items false vs) t) (hs : (Phrase.value v).Reached s)
    (ht : (Phrase.items false vs).Reached t) :
    (Phrase.items first (v :: vs)).Reached (w ++ (s ++ t)) := by
  intro u p q htext hp
  rw [List.append_assoc, List.append_assoc] at htext
  obtain ⟨p₁, rfl, htext₁, hp₁⟩ := hw.plain.exists_behind htext hp
  rcases hs htext₁ hp₁ with ⟨q', rfl, f, rfl, hf⟩ | ⟨p₂, rfl, htext₂, hp₂⟩
  · refine .inl ⟨q' ++ t, (List.append_assoc q' t u).symm, [], f, vs, rfl, fun v' s' hs' => ?_⟩
    simpa using Derives.item hw (hf hs') hvs
  · rcases ht htext₂ hp₂ with ⟨q', rfl, before, f, after, rfl, hf⟩ | ⟨p₃, rfl, hbehind, hp₃⟩
    · refine .inl ⟨q', rfl, v :: before, f, after, rfl, fun v' s' hs' => ?_⟩
      simpa using Derives.item hw hv (hf hs')
    · exact .inr ⟨p₃, by simp, hbehind, hp₃⟩

/-- The null stands in the value of the member, or in the members behind it. -/
theorem reached_member (hw : Lead first w) (hname : Literal .Accepted name lit) (hw₁ : Blank w₁)
    (hw₂ : Blank w₂) (hv : Derives .Accepted (.value v) s)
    (hms : Derives .Accepted (.members false ms) t) (hs : (Phrase.value v).Reached s)
    (ht : (Phrase.members false ms).Reached t) :
    (Phrase.members first ((String.ofList name, v) :: ms)).Reached
      (w ++ '"' :: (lit ++ '"' :: (w₁ ++ ':' :: (w₂ ++ (s ++ t))))) := by
  intro u p q htext hp
  simp only [List.append_assoc, List.cons_append] at htext
  obtain ⟨p₁, rfl, htext₁, hp₁⟩ := hw.plain.exists_behind htext hp
  obtain ⟨p₂, rfl, htext₂, hp₂⟩ := hname.exists_behind htext₁ hp₁
  obtain ⟨p₃, rfl, htext₃, hp₃⟩ := hw₁.plain.exists_behind htext₂ hp₂
  obtain ⟨p₄, rfl, htext₄, hp₄⟩ :=
    (plain_singleton (by decide) (by decide) : Plain [':']).exists_behind htext₃ hp₃
  obtain ⟨p₅, rfl, htext₅, hp₅⟩ := hw₂.plain.exists_behind htext₄ hp₄
  rcases hs htext₅ hp₅ with ⟨q', rfl, f, rfl, hf⟩ | ⟨p₆, rfl, htext₆, hp₆⟩
  · refine .inl ⟨q' ++ t, (List.append_assoc q' t u).symm, [], String.ofList name, f, ms, rfl,
      fun v' s' hs' => ?_⟩
    simpa using Derives.member hw hname hw₁ hw₂ (hf hs') hms
  · rcases ht htext₆ hp₆ with ⟨q', rfl, before, name', f, after, rfl, hf⟩ | ⟨p₇, rfl, hbehind, hp₇⟩
    · refine .inl ⟨q', rfl, (String.ofList name, v) :: before, name', f, after, rfl,
        fun v' s' hs' => ?_⟩
      simpa using Derives.member hw hname hw₁ hw₂ hv (hf hs')
    · exact .inr ⟨p₇, by simp, hbehind, hp₇⟩

end

/-- A null that is reached from outside of literals opens the phrase that it stands in. The
    induction is on the derivation of the text. -/
theorem Derives.reached (h : Derives .Accepted ph s) : ph.Reached s := by
  induction h with
  | null => exact reached_null
  | bool b => exact .of_plain (by cases b <;> constructor <;> decide)
  | number hn =>
    refine .of_plain ⟨fun hmem => ?_, fun hmem => ?_⟩
    · exact absurd (hn.forall_isNumeric _ hmem) (by decide)
    · exact absurd (hn.forall_isNumeric _ hmem) (by decide)
  | string hlit =>
    intro u p q htext hp
    rw [List.cons_append, List.append_assoc, List.singleton_append] at htext
    obtain ⟨p', rfl, hbehind, hp'⟩ := hlit.exists_behind htext hp
    exact .inr ⟨p', by simp, hbehind, hp'⟩
  | array _ ih => exact reached_array ih
  | object _ ih => exact reached_object ih
  | lastItem hw => exact .of_plain (hw.plain.append (plain_singleton (by decide) (by decide)))
  | item hw hv hvs ihv ihvs => exact reached_item hw hv hvs ihv ihvs
  | lastMember hw => exact .of_plain (hw.plain.append (plain_singleton (by decide) (by decide)))
  | member hw hname hw₁ hw₂ hv hms ihv ihms =>
    exact reached_member hw hname hw₁ hw₂ hv hms ihv ihms

/-- A null of a text, outside of literals, stands in a frame: the text is one of the frame with the
    null, and with the text of any value for the null it is one of the frame with the value. -/
theorem exists_between {v : Json} {p q : List Char}
    (h : Writes .Accepted v (p ++ ("null".toList ++ q))) (hp : endsQuoted false p = false) :
    ∃ f : Frame, f.plug .null = v ∧ f.Between p q := by
  obtain ⟨w, s, w', hw, hs, hw', htext⟩ := h
  obtain ⟨p₁, rfl, htext₁, hp₁⟩ := hw.plain.exists_behind htext.symm hp
  rcases hs.reached htext₁ hp₁ with ⟨q', rfl, f, rfl, hf⟩ | ⟨p₂, rfl, htext₂, hp₂⟩
  · refine ⟨f, rfl, fun v' s' hs' => ⟨w, _, w', hw, hf hs', hw', ?_⟩⟩
    simp
  · have hletter : 'n' ∈ w' := by simp [htext₂]
    have hspace := hw' _ hletter
    exact absurd hspace (by decide)

end Issuance.Json

import Issuance.Proofs.Json.Reading

/-! # JSON texts spaced another way

    Behind a line feed the grammar allows more white space or less wherever it allows the line feed.
    A literal holds no line feed, and no other token does, so a text that is one value stays a text
    of that value when the white space behind its line feeds changes. Of a text that is none nothing
    has to be known: the relation between the two texts goes both ways. -/

namespace Issuance.Json

open Text (Stops)

theorem Blank.append {w w' : List Char} (hw : Blank w) (hw' : Blank w') : Blank (w ++ w') :=
  List.forall_mem_append.mpr ⟨hw, hw'⟩

/-- Two texts that differ at most in the white space behind line feeds. -/
inductive Respaced : List Char → List Char → Prop
  | nil : Respaced [] []
  | char {c : Char} {s t : List Char} : c ≠ '\n' → Respaced s t → Respaced (c :: s) (c :: t)
  | gap {w w' s t : List Char} : Blank w → Blank w' → Respaced s t →
      Respaced ('\n' :: (w ++ s)) ('\n' :: (w' ++ t))

namespace Respaced

variable {s s' t t' w : List Char} {c : Char}

theorem refl : ∀ s : List Char, Respaced s s
  | [] => .nil
  | c :: rest => by
    by_cases hc : c = '\n'
    · subst hc
      exact .gap blank_nil blank_nil (refl rest)
    · exact .char hc (refl rest)

theorem symm (h : Respaced s t) : Respaced t s := by
  induction h with
  | nil => exact .nil
  | char hc _ ih => exact .char hc ih
  | gap hw hw' _ ih => exact .gap hw' hw ih

theorem append (h : Respaced s t) (h' : Respaced s' t') : Respaced (s ++ s') (t ++ t') := by
  induction h with
  | nil => exact h'
  | char hc _ ih => exact .char hc ih
  | gap hw hw' _ ih =>
    rw [List.cons_append, List.cons_append, List.append_assoc, List.append_assoc]
    exact .gap hw hw' ih

/-! ### What is left of a stretch -/

/-- A stretch without a line feed is left as it is. -/
theorem of_append_left {s : List Char} : ∀ {a t : List Char}, '\n' ∉ a → Respaced (a ++ s) t →
    ∃ s', t = a ++ s' ∧ Respaced s s'
  | [], t, _, h => ⟨t, rfl, h⟩
  | c :: a, t, ha, h => by
    rw [List.mem_cons, not_or] at ha
    rw [List.cons_append] at h
    generalize hsource : c :: (a ++ s) = source at h
    cases h with
    | nil => cases hsource
    | char _ hrest =>
      obtain ⟨rfl, rfl⟩ := List.cons.inj hsource
      obtain ⟨s', rfl, hs'⟩ := of_append_left ha.2 hrest
      exact ⟨s', rfl, hs'⟩
    | gap => exact absurd (List.cons.inj hsource).1.symm ha.1

theorem of_cons_left (hc : c ≠ '\n') (h : Respaced (c :: s) t) :
    ∃ s', t = c :: s' ∧ Respaced s s' :=
  of_append_left (a := [c]) (by simpa using hc.symm) h

/-- White space before a token is left white space. The induction is on the change; a line feed may
    take any part of the white space behind it. -/
theorem of_blank_left (h : Respaced (w ++ s) t) (hw : Blank w) (hs : Stops isSpace s) :
    ∃ w' s', t = w' ++ s' ∧ Blank w' ∧ Respaced s s' := by
  generalize hsource : w ++ s = source at h
  induction h generalizing w with
  | nil =>
    obtain ⟨rfl, rfl⟩ := List.append_eq_nil_iff.mp hsource
    exact ⟨[], [], rfl, blank_nil, .nil⟩
  | @char c u u' hc hu ih =>
    cases w with
    | nil =>
      rw [List.nil_append] at hsource
      exact ⟨[], c :: u', rfl, blank_nil, hsource ▸ .char hc hu⟩
    | cons d rest =>
      obtain ⟨rfl, hrest⟩ := List.cons.inj hsource
      obtain ⟨w', s', rfl, hw', hs'⟩ := ih (fun e he => hw e (List.mem_cons_of_mem d he)) hrest
      exact ⟨d :: w', s', rfl, List.forall_mem_cons.mpr ⟨hw d List.mem_cons_self, hw'⟩, hs'⟩
  | @gap v v' u u' hv hv' hu ih =>
    cases w with
    | nil =>
      rw [List.nil_append] at hsource
      exact ⟨[], '\n' :: (v' ++ u'), rfl, blank_nil, hsource ▸ .gap hv hv' hu⟩
    | cons d rest =>
      obtain ⟨rfl, hsplit⟩ := List.cons.inj hsource
      have hnewline : isSpace '\n' = true := by decide
      rcases List.append_eq_append_iff.mp hsplit with ⟨x, rfl, rfl⟩ | ⟨x, rfl, rfl⟩
      · have hx : x = [] := by
          cases x with
          | nil => rfl
          | cons e x =>
            have hblank := hv e (by simp)
            rw [Text.stops_cons.mp hs] at hblank
            cases hblank
        subst hx
        refine ⟨'\n' :: v', u', rfl, List.forall_mem_cons.mpr ⟨hnewline, hv'⟩, hu⟩
      · obtain ⟨w', s', rfl, hw', hs'⟩ := ih (fun e he => hw e (by simp [he])) rfl
        refine ⟨'\n' :: (v' ++ w'), s', by simp, ?_, hs'⟩
        exact List.forall_mem_cons.mpr ⟨hnewline, hv'.append hw'⟩

theorem of_newline_left (h : Respaced ('\n' :: s) t) :
    ∃ w u w' u', s = w ++ u ∧ t = '\n' :: (w' ++ u') ∧ Blank w ∧ Blank w' ∧ Respaced u u' := by
  generalize hsource : '\n' :: s = source at h
  cases h with
  | nil => cases hsource
  | char hc _ => exact absurd (List.cons.inj hsource).1.symm hc
  | @gap w w' u u' hw hw' hu =>
    exact ⟨w, u, w', u', (List.cons.inj hsource).2, rfl, hw, hw', hu⟩

theorem blank (h : Respaced s t) (hs : Blank s) : Blank t := by
  obtain ⟨w', s', rfl, hw', hs'⟩ := of_blank_left (s := []) (by simpa using h) hs Text.stops_nil
  cases hs'
  simpa using hw'

end Respaced

section
variable {σ : Spelling} {ph : Phrase} {first : Bool} {w s t u lit : List Char} {v : Json}

/-! ### Tokens hold no line feed -/

/-- A character that is no hexadecimal digit is none of the four of an escape. -/
theorem not_mem_of_hexQuad {a b c d x : Char} {n : Nat} (h : hexQuad a b c d = some n)
    (hx : Text.hexValue x = none) : x ∉ [a, b, c, d] := by
  intro hmem
  simp only [List.mem_cons, List.not_mem_nil, or_false] at hmem
  rcases hmem with rfl | rfl | rfl | rfl <;> simp [hexQuad, hx] at h

theorem newline_not_mem_of_accepted {c : Char} (h : Spelling.Accepted c w) : '\n' ∉ w := by
  cases h with
  | raw _ _ hcontrol =>
    intro hmem
    rw [← List.mem_singleton.mp hmem] at hcontrol
    exact hcontrol (by decide)
  | @short e _ he =>
    have hnone : unescape '\n' = none := by decide
    intro hmem
    simp only [List.mem_cons, List.not_mem_nil, or_false] at hmem
    rcases hmem with hmem | rfl
    · cases hmem
    · rw [hnone] at he
      cases he
  | hex hn _ _ => simpa using not_mem_of_hexQuad hn (x := '\n') (by decide)
  | pair hn _ _ hm _ =>
    have hnone : Text.hexValue '\n' = none := by decide
    have hdigits := And.intro (not_mem_of_hexQuad hn hnone) (not_mem_of_hexQuad hm hnone)
    simpa [and_assoc] using hdigits

theorem newline_not_mem_literal (h : Literal .Accepted s lit) : '\n' ∉ lit := by
  induction h with
  | nil => exact List.not_mem_nil
  | cons hc _ ih =>
    rw [List.mem_append, not_or]
    exact ⟨newline_not_mem_of_accepted hc, ih⟩

/-! ### Texts of values -/

/-- What stands before an item or a member is left such a stretch. -/
theorem Lead.of_respaced (h : Lead first w) (hs : Stops isSpace s) (ht : Respaced (w ++ s) t) :
    ∃ w' s', t = w' ++ s' ∧ Lead first w' ∧ Respaced s s' := by
  cases h with
  | first hw =>
    obtain ⟨w', s', rfl, hw', hs'⟩ := ht.of_blank_left hw hs
    exact ⟨w', s', rfl, .first hw', hs'⟩
  | @next w₁ w₂ hw₁ hw₂ =>
    have hcomma : Stops isSpace (',' :: (w₂ ++ s)) := Text.stops_cons.mpr (by decide)
    rw [List.append_assoc, List.cons_append] at ht
    obtain ⟨w₁', t', rfl, hw₁', ht'⟩ := ht.of_blank_left hw₁ hcomma
    obtain ⟨t'', rfl, ht''⟩ := ht'.of_cons_left (by decide)
    obtain ⟨w₂', s', rfl, hw₂', hs'⟩ := ht''.of_blank_left hw₂ hs
    exact ⟨w₁' ++ ',' :: w₂', s', by simp, .next hw₁' hw₂', hs'⟩

theorem Derives.value_stops (h : Derives σ (.value v) s) (rest : List Char) :
    Stops isSpace (s ++ rest) := by
  obtain ⟨c, s', rfl, hc, -⟩ := h.value_head
  exact Text.stops_cons.mpr hc

/-- A text of a phrase stays one, whatever follows it. The induction is on the derivation; every
    token is kept, and the white space between two tokens stays white space. -/
theorem Derives.of_respaced (h : Derives .Accepted ph s) (ht : Respaced (s ++ u) t) :
    ∃ s' u', t = s' ++ u' ∧ Derives .Accepted ph s' ∧ Respaced u u' := by
  induction h generalizing u t with
  | null =>
    obtain ⟨u', rfl, hu⟩ := ht.of_append_left (by decide)
    exact ⟨_, u', rfl, .null, hu⟩
  | bool b =>
    obtain ⟨u', rfl, hu⟩ := ht.of_append_left (by cases b <;> decide)
    exact ⟨_, u', rfl, .bool b, hu⟩
  | number hn =>
    have hline : '\n' ∉ _ := fun hmem => absurd (hn.forall_isNumeric '\n' hmem) (by decide)
    obtain ⟨u', rfl, hu⟩ := ht.of_append_left hline
    exact ⟨_, u', rfl, .number hn, hu⟩
  | @string _ lit hlit =>
    have hquoted : '\n' ∉ '"' :: (lit ++ ['"']) := by simpa using newline_not_mem_literal hlit
    obtain ⟨u', rfl, hu⟩ := ht.of_append_left hquoted
    exact ⟨_, u', rfl, .string hlit, hu⟩
  | array _ ih =>
    obtain ⟨t', rfl, ht'⟩ := ht.of_cons_left (by decide)
    obtain ⟨s', u', rfl, hs', hu⟩ := ih ht'
    exact ⟨'[' :: s', u', rfl, .array hs', hu⟩
  | object _ ih =>
    obtain ⟨t', rfl, ht'⟩ := ht.of_cons_left (by decide)
    obtain ⟨s', u', rfl, hs', hu⟩ := ih ht'
    exact ⟨'{' :: s', u', rfl, .object hs', hu⟩
  | lastItem hw =>
    rw [List.append_assoc] at ht
    obtain ⟨w', t', rfl, hw', ht'⟩ := ht.of_blank_left hw (Text.stops_cons.mpr (by decide))
    obtain ⟨u', rfl, hu⟩ := ht'.of_cons_left (by decide)
    exact ⟨w' ++ [']'], u', by simp, .lastItem hw', hu⟩
  | @item _ _ _ w s r hw hv _ ihv ihvs =>
    rw [List.append_assoc, List.append_assoc] at ht
    obtain ⟨w', t', rfl, hw', ht'⟩ := hw.of_respaced (hv.value_stops _) ht
    obtain ⟨s', t'', rfl, hs', ht''⟩ := ihv ht'
    obtain ⟨r', u', rfl, hr', hu⟩ := ihvs ht''
    exact ⟨w' ++ (s' ++ r'), u', by simp, .item hw' hs' hr', hu⟩
  | lastMember hw =>
    rw [List.append_assoc] at ht
    obtain ⟨w', t', rfl, hw', ht'⟩ := ht.of_blank_left hw (Text.stops_cons.mpr (by decide))
    obtain ⟨u', rfl, hu⟩ := ht'.of_cons_left (by decide)
    exact ⟨w' ++ ['}'], u', by simp, .lastMember hw', hu⟩
  | @member _ v ms w name lit w₁ w₂ s r hw hlit hw₁ hw₂ hv _ ihv ihms =>
    have hquoted : '\n' ∉ '"' :: (lit ++ ['"']) := by simpa using newline_not_mem_literal hlit
    have hsplit : w ++ '"' :: (lit ++ '"' :: (w₁ ++ ':' :: (w₂ ++ (s ++ r)))) ++ u =
        w ++ ('"' :: (lit ++ ['"']) ++ (w₁ ++ ':' :: (w₂ ++ (s ++ (r ++ u))))) := by simp
    rw [hsplit] at ht
    obtain ⟨w', t₁, rfl, hw', ht₁⟩ := hw.of_respaced (Text.stops_cons.mpr (by decide)) ht
    obtain ⟨t₂, rfl, ht₂⟩ := ht₁.of_append_left hquoted
    obtain ⟨w₁', t₃, rfl, hw₁', ht₃⟩ := ht₂.of_blank_left hw₁ (Text.stops_cons.mpr (by decide))
    obtain ⟨t₄, rfl, ht₄⟩ := ht₃.of_cons_left (by decide)
    obtain ⟨w₂', t₅, rfl, hw₂', ht₅⟩ := ht₄.of_blank_left hw₂ (hv.value_stops _)
    obtain ⟨s', t₆, rfl, hs', ht₆⟩ := ihv ht₅
    obtain ⟨r', u', rfl, hr', hu⟩ := ihms ht₆
    exact ⟨w' ++ '"' :: (lit ++ '"' :: (w₁' ++ ':' :: (w₂' ++ (s' ++ r')))), u', by simp,
      .member hw' hlit hw₁' hw₂' hs' hr', hu⟩

theorem Writes.of_respaced (h : Writes .Accepted v s) (ht : Respaced s t) :
    Writes .Accepted v t := by
  obtain ⟨w, s, r, hw, hs, hr, rfl⟩ := h
  obtain ⟨w', t', rfl, hw', ht'⟩ := ht.of_blank_left hw (hs.value_stops r)
  obtain ⟨s', r', rfl, hs', hr'⟩ := hs.of_respaced ht'
  exact ⟨w', s', r', hw', hs', hr'.blank hr, rfl⟩

/-- Both texts are read as the same value, or neither is read. -/
theorem parse_eq_ok_iff_of_respaced (h : Respaced s t) : parse s = .ok v ↔ parse t = .ok v := by
  have hone : ∀ {s t : List Char}, Respaced s t → parse s = .ok v → parse t = .ok v := by
    intro s t h hs
    obtain ⟨raw, hwrites, hdepth⟩ := parse_eq_ok_iff.mp hs
    exact parse_eq_ok_iff.mpr ⟨raw, hwrites.of_respaced h, hdepth⟩
  exact ⟨hone h, hone h.symm⟩

end

end Issuance.Json

import Issuance.Json.Reader
import Issuance.Proofs.Json.Literal
import Issuance.Proofs.Json.Numeral
import Issuance.Proofs.Json.Shape

/-! # The grammar of JSON texts

    Which texts stand for which values, members as they are written: a name may be repeated, white
    space may stand around every token, and characters may be spelled as a spelling allows. The
    compact form of a value is one of its texts. -/

namespace Issuance.Json

open Text (Stops)

/-- A stretch of a text: a value, or what is still to come of an array or an object, up to its
    closing bracket; the first item or member has no comma before it. -/
inductive Phrase where
  | value (v : Json)
  | items (first : Bool) (vs : List Json)
  | members (first : Bool) (ms : List (String × Json))

/-- A phrase with every member name and every string rewritten. -/
def Phrase.mapTexts (onName onText : String → String) : Phrase → Phrase
  | .value v => .value (v.mapTexts onName onText)
  | .items first vs => .items first (mapItems onName onText vs)
  | .members first ms => .members first (mapMembers onName onText ms)

/-- The names, strings and numbers of a phrase, in order. -/
def Phrase.leaves : Phrase → List Leaf
  | .value v => v.leaves
  | .items _ vs => itemLeaves vs
  | .members _ ms => memberLeaves ms

/-- A text of white space between tokens. -/
def Blank (w : List Char) : Prop := ∀ c ∈ w, isSpace c = true

theorem blank_nil : Blank [] := fun _ h => by cases h

/-- What stands before an item or a member. -/
inductive Lead : Bool → List Char → Prop
  | first {w : List Char} : Blank w → Lead true w
  | next {w w' : List Char} : Blank w → Blank w' → Lead false (w ++ ',' :: w')

/-- A text that stands for a phrase. -/
inductive Derives (σ : Spelling) : Phrase → List Char → Prop
  | null : Derives σ (.value .null) "null".toList
  | bool (b : Bool) : Derives σ (.value (.bool b)) (boolText b)
  | number {n : Number} {s : List Char} : Numeral n s → Derives σ (.value (.number n)) s
  | string {s lit : List Char} : Literal σ s lit →
      Derives σ (.value (.string (String.ofList s))) ('"' :: (lit ++ ['"']))
  | array {vs : List Json} {s : List Char} : Derives σ (.items true vs) s →
      Derives σ (.value (.array vs)) ('[' :: s)
  | object {ms : List (String × Json)} {s : List Char} : Derives σ (.members true ms) s →
      Derives σ (.value (.object ms)) ('{' :: s)
  | lastItem {first : Bool} {w : List Char} : Blank w → Derives σ (.items first []) (w ++ [']'])
  | item {first : Bool} {v : Json} {vs : List Json} {w s t : List Char} : Lead first w →
      Derives σ (.value v) s → Derives σ (.items false vs) t →
      Derives σ (.items first (v :: vs)) (w ++ (s ++ t))
  | lastMember {first : Bool} {w : List Char} : Blank w → Derives σ (.members first []) (w ++ ['}'])
  | member {first : Bool} {v : Json} {ms : List (String × Json)}
      {w name lit w₁ w₂ s t : List Char} : Lead first w → Literal σ name lit → Blank w₁ → Blank w₂ →
      Derives σ (.value v) s → Derives σ (.members false ms) t →
      Derives σ (.members first ((String.ofList name, v) :: ms))
        (w ++ '"' :: (lit ++ '"' :: (w₁ ++ ':' :: (w₂ ++ (s ++ t)))))

/-- A text that holds one value, with white space around it. -/
def Writes (σ : Spelling) (v : Json) (text : List Char) : Prop :=
  ∃ w s w', Blank w ∧ Derives σ (.value v) s ∧ Blank w' ∧ text = w ++ (s ++ w')

section
variable {σ τ : Spelling} {first : Bool} {v : Json} {vs : List Json} {ms : List (String × Json)}
  {ph : Phrase} {w s t : List Char}

theorem Derives.mono (h : ∀ c w, σ c w → τ c w) (hd : Derives σ ph s) : Derives τ ph s := by
  induction hd with
  | null => exact .null
  | bool b => exact .bool b
  | number hn => exact .number hn
  | string hlit => exact .string (hlit.mono h)
  | array _ ih => exact .array ih
  | object _ ih => exact .object ih
  | lastItem hw => exact .lastItem hw
  | item hw _ _ ihv ihvs => exact .item hw ihv ihvs
  | lastMember hw => exact .lastMember hw
  | member hw hlit hw₁ hw₂ _ _ ihv ihms => exact .member hw (hlit.mono h) hw₁ hw₂ ihv ihms

theorem Writes.mono (h : ∀ c w, σ c w → τ c w) (hv : Writes σ v s) : Writes τ v s := by
  obtain ⟨w, text, w', hw, htext, hw', rfl⟩ := hv
  exact ⟨w, text, w', hw, htext.mono h, hw', rfl⟩

/-! ### How phrases start -/

theorem Blank.stops_isNumeric_append (hw : Blank w) (ht : Stops isNumeric t) :
    Stops isNumeric (w ++ t) := by
  cases w with
  | nil => exact ht
  | cons c rest =>
    have hc := hw c List.mem_cons_self
    refine Text.stops_cons.mpr ?_
    simp only [isSpace, Bool.or_eq_true, beq_iff_eq] at hc
    rcases hc with ((rfl | rfl) | rfl) | rfl <;> decide

theorem Lead.isSpace_or_comma (hw : Lead first w) {c : Char} (hc : c ∈ w) :
    isSpace c = true ∨ c = ',' := by
  cases hw with
  | first hw => exact .inl (hw c hc)
  | next hw hw' =>
    rcases List.mem_append.mp hc with hc | hc
    · exact .inl (hw c hc)
    · rcases List.mem_cons.mp hc with rfl | hc
      · exact .inr rfl
      · exact .inl (hw' c hc)

theorem Lead.stops_isNumeric_append (hw : Lead false w) (t : List Char) :
    Stops isNumeric (w ++ t) := by
  cases hw with
  | next hw hw' =>
    rw [List.append_assoc]
    exact hw.stops_isNumeric_append (Text.stops_cons.mpr (by decide))

/-- What follows an item ends a number. -/
theorem Derives.items_stops (h : Derives σ (.items false vs) s) (rest : List Char) :
    Stops isNumeric (s ++ rest) := by
  cases h with
  | lastItem hw =>
    rw [List.append_assoc]
    exact hw.stops_isNumeric_append (Text.stops_cons.mpr (by decide))
  | item hw _ _ => rw [List.append_assoc]; exact hw.stops_isNumeric_append _

/-- What follows a member ends a number. -/
theorem Derives.members_stops (h : Derives σ (.members false ms) s) (rest : List Char) :
    Stops isNumeric (s ++ rest) := by
  cases h with
  | lastMember hw =>
    rw [List.append_assoc]
    exact hw.stops_isNumeric_append (Text.stops_cons.mpr (by decide))
  | member hw _ _ _ _ _ => rw [List.append_assoc]; exact hw.stops_isNumeric_append _

theorem isSpace_of_isDigit {c : Char} (h : isDigit c = true) : isSpace c = false := by
  by_contra hspace
  simp only [isSpace, Bool.not_eq_false, Bool.or_eq_true, beq_iff_eq] at hspace
  rcases hspace with ((rfl | rfl) | rfl) | rfl <;> exact absurd h (by decide)

/-- A value starts with a character that is neither white space nor a closing bracket. -/
theorem Derives.value_head (h : Derives σ (.value v) s) :
    ∃ c rest, s = c :: rest ∧ isSpace c = false ∧ c ≠ ']' := by
  cases h with
  | null => exact ⟨'n', _, rfl, by decide, by decide⟩
  | bool b =>
    cases b with
    | true => exact ⟨'t', _, rfl, by decide, by decide⟩
    | false => exact ⟨'f', _, rfl, by decide, by decide⟩
  | string _ => exact ⟨'"', _, rfl, by decide, by decide⟩
  | array _ => exact ⟨'[', _, rfl, by decide, by decide⟩
  | object _ => exact ⟨'{', _, rfl, by decide, by decide⟩
  | number hn =>
    obtain ⟨c, rest, rfl, rfl | hc⟩ := hn.head
    · exact ⟨'-', rest, rfl, by decide, by decide⟩
    · exact ⟨c, rest, rfl, isSpace_of_isDigit hc, by rintro rfl; exact absurd hc (by decide)⟩

/-- Only the text of null starts with its first letter. -/
theorem Derives.value_head_of_ne_null (h : Derives σ (.value v) s) (hv : v ≠ .null) :
    ∃ c rest, s = c :: rest ∧ isSpace c = false ∧ c ≠ 'n' := by
  cases h with
  | null => exact absurd rfl hv
  | bool b =>
    cases b with
    | true => exact ⟨'t', _, rfl, by decide, by decide⟩
    | false => exact ⟨'f', _, rfl, by decide, by decide⟩
  | string _ => exact ⟨'"', _, rfl, by decide, by decide⟩
  | array _ => exact ⟨'[', _, rfl, by decide, by decide⟩
  | object _ => exact ⟨'{', _, rfl, by decide, by decide⟩
  | number hn =>
    obtain ⟨c, rest, rfl, rfl | hc⟩ := hn.head
    · exact ⟨'-', rest, rfl, by decide, by decide⟩
    · exact ⟨c, rest, rfl, isSpace_of_isDigit hc, by rintro rfl; exact absurd hc (by decide)⟩

/-- Members start with white space, a quote or their closing bracket. -/
theorem Derives.members_head {σ : Spelling} {ms : List (String × Json)} {s : List Char}
    (h : Derives σ (.members true ms) s) : ∃ c rest, s = c :: rest ∧ c ≠ '{' := by
  have hblank : ∀ {w t : List Char} {d : Char}, Blank w → d ≠ '{' →
      ∃ c rest, w ++ d :: t = c :: rest ∧ c ≠ '{' := by
    intro w t d hw hd
    cases w with
    | nil => exact ⟨d, t, rfl, hd⟩
    | cons c rest =>
      refine ⟨c, rest ++ d :: t, rfl, ?_⟩
      rintro rfl
      exact absurd (hw '{' List.mem_cons_self) (by decide)
  cases h with
  | lastMember hw => exact hblank hw (by decide)
  | member hw _ _ _ _ _ =>
    cases hw with
    | first hw => exact hblank hw (by decide)

/-- Members end with their closing bracket. -/
theorem Derives.members_last (h : Derives σ (.members first ms) s) : ∃ m, s = m ++ ['}'] := by
  generalize hph : Phrase.members first ms = ph at h
  induction h generalizing first ms with
  | @lastMember _ w _ => exact ⟨w, rfl⟩
  | @member _ _ _ w _ lit w₁ w₂ s _ _ _ _ _ _ _ _ ihms =>
    obtain ⟨m, rfl⟩ := ihms rfl
    exact ⟨w ++ '"' :: (lit ++ '"' :: (w₁ ++ ':' :: (w₂ ++ (s ++ m)))), by simp⟩
  | _ => cases hph

/-- A comma makes the first item, and those behind it, further items. -/
theorem Derives.comma_items (h : Derives σ (.items true (v :: vs)) s) :
    Derives σ (.items false (v :: vs)) (',' :: s) := by
  cases h with
  | item hw hv hvs =>
    cases hw with
    | first hw => exact .item (.next blank_nil hw) hv hvs

/-- A comma makes the first member, and those behind it, further members. -/
theorem Derives.comma_members {m : String × Json} (h : Derives σ (.members true (m :: ms)) s) :
    Derives σ (.members false (m :: ms)) (',' :: s) := by
  cases h with
  | member hw hname hw₁ hw₂ hv hms =>
    cases hw with
    | first hw => exact .member (.next blank_nil hw) hname hw₁ hw₂ hv hms

theorem Derives.ne_nil (h : Derives σ ph s) : s ≠ [] := by
  cases h with
  | number hn => obtain ⟨c, rest, rfl, _⟩ := hn.head; simp
  | item hw hv _ => obtain ⟨c, rest, rfl, _⟩ := hv.value_head; simp
  | bool b => cases b <;> simp [boolText]
  | _ => simp

end

end Issuance.Json

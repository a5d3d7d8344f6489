import Issuance.Json.Printer
import Issuance.Json.StringLiteral
import Mathlib.Tactic.IntervalCases

/-! # String literals

    A literal spells a text character by character. A reader accepts several spellings of one
    character: the character itself, a short escape, a hexadecimal escape or a pair of them. A
    printer uses one. What is proved: reading a literal up to its closing quote gives the text it
    spells, whatever follows, and whatever is read was such a literal. -/

namespace Issuance.Json

/-- How single characters are spelled inside a literal. -/
abbrev Spelling := Char → List Char → Prop

namespace Spelling

/-- The spellings that a reader accepts. -/
inductive Accepted : Spelling
  | raw {c : Char} : c ≠ '"' → c ≠ '\\' → ¬c.toNat < 0x20 → Accepted c [c]
  | short {e c : Char} : unescape e = some c → Accepted c ['\\', e]
  | hex {h₁ h₂ h₃ h₄ : Char} {n : Nat} : hexQuad h₁ h₂ h₃ h₄ = some n → ¬isTrailing n →
      ¬isLeading n → Accepted (Char.ofNat n) ['\\', 'u', h₁, h₂, h₃, h₄]
  | pair {h₁ h₂ h₃ h₄ k₁ k₂ k₃ k₄ : Char} {n m : Nat} : hexQuad h₁ h₂ h₃ h₄ = some n →
      ¬isTrailing n → isLeading n → hexQuad k₁ k₂ k₃ k₄ = some m → isTrailing m →
      Accepted (pairChar n m) ['\\', 'u', h₁, h₂, h₃, h₄, '\\', 'u', k₁, k₂, k₃, k₄]

/-- The accepted spellings but for hexadecimal escapes. -/
inductive Short : Spelling
  | raw {c : Char} : c ≠ '"' → c ≠ '\\' → ¬c.toNat < 0x20 → Short c [c]
  | short {e c : Char} : unescape e = some c → Short c ['\\', e]

/-- The one spelling that a printer uses. -/
def Canonical : Spelling := fun c w => w = escapeChar c

end Spelling

/-- A literal, without its quotes, that spells a text. -/
inductive Literal (σ : Spelling) : List Char → List Char → Prop
  | nil : Literal σ [] []
  | cons {c : Char} {w s lit : List Char} : σ c w → Literal σ s lit → Literal σ (c :: s) (w ++ lit)

namespace Literal

variable {σ τ : Spelling} {s t lit lit' : List Char}

theorem mono (h : ∀ c w, σ c w → τ c w) (hlit : Literal σ s lit) : Literal τ s lit := by
  induction hlit with
  | nil => exact .nil
  | cons hc _ ih => exact .cons (h _ _ hc) ih

theorem append (h : Literal σ s lit) (h' : Literal σ t lit') :
    Literal σ (s ++ t) (lit ++ lit') := by
  induction h with
  | nil => exact h'
  | cons hc _ ih =>
    rw [List.cons_append, List.append_assoc]
    exact .cons hc ih

/-- A text whose characters spell themselves is a literal of itself. -/
theorem self : ∀ {s : List Char}, (∀ c ∈ s, σ c [c]) → Literal σ s s
  | [], _ => .nil
  | c :: _, h => .cons (w := [c]) (h c List.mem_cons_self) (self fun d hd => h d (by simp [hd]))

theorem escape : ∀ s : List Char, Literal .Canonical s (Json.escape s)
  | [] => .nil
  | _ :: rest => .cons rfl (escape rest)

end Literal

/-- The characters that may stand in a literal as they are. -/
def isRaw (c : Char) : Bool := c ≠ '"' && c ≠ '\\' && 0x20 ≤ c.toNat

theorem isRaw_iff {c : Char} : isRaw c = true ↔ c ≠ '"' ∧ c ≠ '\\' ∧ ¬c.toNat < 0x20 := by
  simp [isRaw, and_assoc]

/-! ### Reading what is spelled -/

theorem unescape_ne_u {e c : Char} (h : unescape e = some c) : e ≠ 'u' := by
  rintro rfl
  have hnone : unescape 'u' = none := by decide
  rw [hnone] at h
  cases h

theorem readString_quote (rest : List Char) : readString ('"' :: rest) = .ok ([], rest) := by
  rw [readString.eq_def]
  exact if_pos rfl

/-- Reading a character in any accepted spelling puts it before what follows. -/
theorem readString_spelled {c : Char} {w : List Char} (h : Spelling.Accepted c w)
    (t : List Char) : readString (w ++ t) = prepend c (readString t) := by
  rw [readString.eq_def]
  cases h with
  | raw hquote hslash hcontrol => simp [hquote, hslash, hcontrol]
  | short he => simp [unescape_ne_u he, he]
  | hex hn htrail hlead => simp [hn, htrail, hlead]
  | pair hn htrail hlead hm htrail' => simp [hn, htrail, hlead, hm, htrail']

/-- Reading a literal gives the text it spells, and what follows its closing quote. -/
theorem readString_literal {s lit : List Char} (h : Literal .Accepted s lit) (rest : List Char) :
    readString (lit ++ '"' :: rest) = .ok (s, rest) := by
  induction h with
  | nil => exact readString_quote rest
  | cons hc _ ih => rw [List.append_assoc, readString_spelled hc, ih, prepend]

theorem prepend_eq_ok {c : Char} {r : Except Fault (List Char × List Char)} {s rest : List Char}
    (h : prepend c r = .ok (s, rest)) : ∃ s', s = c :: s' ∧ r = .ok (s', rest) := by
  cases r with
  | error f => cases h
  | ok p => cases h; exact ⟨p.1, rfl, rfl⟩

/-- Whatever is read as a string was spelled by a literal. -/
theorem exists_literal_of_readString {t s rest : List Char} (h : readString t = .ok (s, rest)) :
    ∃ lit, t = lit ++ '"' :: rest ∧ Literal .Accepted s lit := by
  fun_induction readString t generalizing s with
  | case2 => cases h; exact ⟨[], rfl, .nil⟩
  | case7 _ _ _ _ _ hn htrail hlead _ _ _ _ _ _ _ hbu _ hm htrail' _ ih =>
    obtain ⟨rfl, rfl⟩ := hbu
    obtain ⟨s', rfl, hr⟩ := prepend_eq_ok h
    obtain ⟨lit, rfl, hlit⟩ := ih hr
    exact ⟨_, rfl, .cons (.pair hn htrail hlead hm htrail') hlit⟩
  | case11 _ _ _ _ _ _ hn htrail hlead _ ih =>
    obtain ⟨s', rfl, hr⟩ := prepend_eq_ok h
    obtain ⟨lit, rfl, hlit⟩ := ih hr
    exact ⟨_, rfl, .cons (.hex hn htrail hlead) hlit⟩
  | case13 _ _ _ _ he _ ih =>
    obtain ⟨s', rfl, hr⟩ := prepend_eq_ok h
    obtain ⟨lit, rfl, hlit⟩ := ih hr
    exact ⟨_, rfl, .cons (.short he) hlit⟩
  | case16 _ _ hquote hslash hcontrol ih =>
    obtain ⟨s', rfl, hr⟩ := prepend_eq_ok h
    obtain ⟨lit, rfl, hlit⟩ := ih hr
    exact ⟨_, rfl, .cons (.raw hquote hslash hcontrol) hlit⟩
  | _ => cases h

/-! ### The printer's spelling -/

theorem escapeChar_of_raw {c : Char} (hquote : c ≠ '"') (hslash : c ≠ '\\')
    (hcontrol : ¬c.toNat < 0x20) : escapeChar c = [c] := by
  have hne : ∀ d : Char, d.toNat < 0x20 → c ≠ d := fun d hd h => hcontrol (h ▸ hd)
  have hn := hne '\n' (by decide)
  have hr := hne '\r' (by decide)
  have ht := hne '\t' (by decide)
  have h8 : c.toNat ≠ 8 := by omega
  have h12 : c.toNat ≠ 12 := by omega
  have h16 : ¬c.toNat < 0x10 := by omega
  simp only [escapeChar, if_neg hquote, if_neg hslash, if_neg h8, if_neg h12, if_neg hn, if_neg hr,
    if_neg ht, if_neg h16, if_neg hcontrol]

/-- A control is written as a short escape or by its two hexadecimal digits. -/
theorem accepted_escapeChar_of_control {c : Char} (h : c.toNat < 0x20) :
    Spelling.Accepted c (escapeChar c) := by
  have hall : ∀ n < 0x20, Spelling.Accepted (Char.ofNat n) (escapeChar (Char.ofNat n)) := by
    intro n hn
    interval_cases n <;> first | exact .short rfl | exact .hex rfl (by decide) (by decide)
  simpa using hall c.toNat h

/-- A reader accepts what a printer writes. -/
theorem accepted_of_canonical {c : Char} {w : List Char} (h : Spelling.Canonical c w) :
    Spelling.Accepted c w := by
  subst h
  by_cases hcontrol : c.toNat < 0x20
  · exact accepted_escapeChar_of_control hcontrol
  · by_cases hquote : c = '"'
    · subst hquote; exact .short rfl
    · by_cases hslash : c = '\\'
      · subst hslash; exact .short rfl
      · rw [escapeChar_of_raw hquote hslash hcontrol]
        exact .raw hquote hslash hcontrol

theorem accepted_of_short {c : Char} {w : List Char} (h : Spelling.Short c w) :
    Spelling.Accepted c w := by
  cases h with
  | raw hquote hslash hcontrol => exact .raw hquote hslash hcontrol
  | short he => exact .short he

theorem short_of_isRaw {c : Char} (h : isRaw c = true) : Spelling.Short c [c] := by
  obtain ⟨hquote, hslash, hcontrol⟩ := isRaw_iff.mp h
  exact .raw hquote hslash hcontrol

theorem escapeChar_of_isRaw {c : Char} (h : isRaw c = true) : escapeChar c = [c] := by
  obtain ⟨hquote, hslash, hcontrol⟩ := isRaw_iff.mp h
  exact escapeChar_of_raw hquote hslash hcontrol

theorem canonical_of_isRaw {c : Char} (h : isRaw c = true) : Spelling.Canonical c [c] :=
  (escapeChar_of_isRaw h).symm

/-- A text that may stand in a literal as it is is its own escaped form. -/
theorem escape_eq_self : ∀ {s : List Char}, (∀ c ∈ s, isRaw c = true) → Json.escape s = s
  | [], _ => rfl
  | c :: rest, h => by
    have hc := escapeChar_of_isRaw (h c List.mem_cons_self)
    have hrest := escape_eq_self (s := rest) fun d hd => h d (List.mem_cons_of_mem c hd)
    rw [escape] at hrest ⊢
    rw [List.flatMap_cons, hc, hrest, List.singleton_append]

end Issuance.Json

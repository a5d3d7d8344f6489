import Issuance.Proofs.Json.Literal
import Issuance.Proofs.Placeholder.Matcher

/-! # Placeholders inside string literals

    A literal spells the characters of placeholders as they are, and the escapes of all others bring
    in no opening brace. So a literal holds the placeholders of the text it spells, in the same
    places, and to fill them with spelled values is to spell the text with its placeholders filled.
    -/

namespace Issuance.Placeholder

open Json (Spelling Literal)
open Text (Match Piece Stops pieces hits fillPieces)

/-- A spelling that writes slot characters as they are, and escapes only others, without a brace. -/
def Tame (σ : Spelling) : Prop :=
  ∀ {c : Char} {w : List Char}, σ c w →
    w = [c] ∨ isSlotChar c = false ∧ ∃ e, w = '\\' :: e ∧ '{' ∉ e

/-- Pieces of a text and of a literal that spells it: the same matches, and the characters between
    them spelled. -/
inductive Respelled {α : Type} (σ : Spelling) : List (Piece α) → List (Piece α) → Prop
  | nil : Respelled σ [] []
  | char {c : Char} {w : List Char} {ps qs : List (Piece α)} : σ c w → Respelled σ ps qs →
      Respelled σ (.char c :: ps) (w.map .char ++ qs)
  | hit {a : α} {ps qs : List (Piece α)} : Respelled σ ps qs →
      Respelled σ (.hit a :: ps) (.hit a :: qs)

variable {α : Type} {find : List Char → Option (Match α)} {σ τ : Spelling}
  {s lit : List Char} {ps qs : List (Piece α)}

/-! ### Spellings -/

/-- A control is no slot character, and its escape holds no brace. -/
theorem escapeChar_of_control {c : Char} (h : c.toNat < 0x20) :
    isSlotChar c = false ∧ ∃ e, Json.escapeChar c = '\\' :: e ∧ '{' ∉ e := by
  have hall : ∀ n < 0x20, isSlotChar (Char.ofNat n) = false ∧
      (Json.escapeChar (Char.ofNat n)).head? = some '\\' ∧
        '{' ∉ (Json.escapeChar (Char.ofNat n)).tail := by decide
  obtain ⟨hslot, hhead, htail⟩ := hall c.toNat h
  rw [Char.ofNat_toNat] at hslot hhead htail
  exact ⟨hslot, _, (List.cons_head?_tail hhead).symm, htail⟩

theorem tame_canonical : Tame .Canonical := by
  rintro c _ rfl
  by_cases hcontrol : c.toNat < 0x20
  · exact .inr (escapeChar_of_control hcontrol)
  · by_cases hquote : c = '"'
    · subst hquote; exact .inr ⟨by decide, ['"'], rfl, by decide⟩
    · by_cases hslash : c = '\\'
      · subst hslash; exact .inr ⟨by decide, ['\\'], rfl, by decide⟩
      · exact .inl (Json.escapeChar_of_raw hquote hslash hcontrol)

theorem tame_short : Tame .Short := by
  intro c w h
  cases h with
  | raw _ _ _ => exact .inl rfl
  | @short e _ he =>
    right
    unfold Json.unescape at he
    split_ifs at he with h₁ h₂ h₃ h₄ h₅ h₆ h₇ h₈ <;> cases he <;> subst e <;>
      exact ⟨by decide, _, rfl, by decide⟩

/-! ### Slot characters in a literal -/

theorem takeWhile_literal (hσ : Tame σ) (h : Literal σ s lit) :
    lit.takeWhile isSlotChar = s.takeWhile isSlotChar := by
  induction h with
  | nil => rfl
  | cons hc _ ih =>
    obtain rfl | ⟨hslot, e, rfl, -⟩ := hσ hc
    · rw [List.cons_append, List.nil_append, List.takeWhile_cons, List.takeWhile_cons, ih]
    · have hslash : isSlotChar '\\' = false := by decide
      simp [hslot, hslash]

theorem literal_eq_self (hσ : Tame σ) (h : Literal σ s lit)
    (hs : ∀ c ∈ s, isSlotChar c = true) : lit = s := by
  induction h with
  | nil => rfl
  | @cons c w s lit hc _ ih =>
    obtain rfl | ⟨hslot, -⟩ := hσ hc
    · rw [ih fun d hd => hs d (List.mem_cons_of_mem c hd), List.singleton_append]
    · rw [hs c List.mem_cons_self] at hslot
      cases hslot

/-- The rest of a literal behind some of its first slot characters spells the rest of the text. -/
theorem literal_drop (hσ : Tame σ) (h : Literal σ s lit) :
    ∀ n ≤ (s.takeWhile isSlotChar).length, Literal σ (s.drop n) (lit.drop n) := by
  induction h with
  | nil => intro n _; simpa using Literal.nil
  | @cons c w s lit hc hlit ih =>
    intro n hn
    cases n with
    | zero => exact .cons hc hlit
    | succ n =>
      obtain rfl | ⟨hslot, -⟩ := hσ hc
      · by_cases hslot : isSlotChar c
        · rw [List.takeWhile_cons_of_pos hslot, List.length_cons, Nat.succ_le_succ_iff] at hn
          exact ih n hn
        · rw [List.takeWhile_cons_of_neg hslot] at hn
          cases hn
      · rw [List.takeWhile_cons_of_neg (by simp [hslot])] at hn
        cases hn

/-! ### Matches in a literal -/

/-- The same placeholders are found in a text and in a literal that spells it. -/
theorem respelled_pieces (hf : IsFinder find) (hσ : Tame σ) : ∀ {s lit : List Char},
    Literal σ s lit → Respelled σ (pieces find s) (pieces find lit)
  | [], _, .nil => .nil
  | c :: s, _, @Json.Literal.cons _ _ w _ lit hc hlit => by
    obtain rfl | ⟨hslot, e, rfl, he⟩ := hσ hc
    -- A character that spells itself: both texts go on with the same slot characters.
    · have heq : find (c :: lit) = find (c :: s) := by
        refine hf.find_congr ?_
        rw [List.takeWhile_cons, List.takeWhile_cons, takeWhile_literal hσ hlit]
      rw [List.cons_append, List.nil_append]
      cases hm : find (c :: s) with
      | none =>
        rw [Text.pieces_cons_of_none hm, Text.pieces_cons_of_none (heq.trans hm)]
        exact .char hc (respelled_pieces hf hσ hlit)
      | some m =>
        rw [Text.pieces_cons_of_some hm, Text.pieces_cons_of_some (heq.trans hm)]
        have hle : m.span - 1 ≤ (s.takeWhile isSlotChar).length := by
          have hspan := hf.span_le hm
          rw [List.takeWhile_cons] at hspan
          split at hspan <;> simp only [List.length_cons, List.length_nil] at hspan <;> omega
        exact .hit (respelled_pieces hf hσ (literal_drop hσ hlit _ hle))
    -- An escaped character: no match reaches over it, and none opens in its escape.
    · have hslash : isSlotChar '\\' = false := by decide
      have hs := hf.pieces_append_cons hslot s []
      have hlit' := hf.pieces_append_cons hslash (e ++ lit) []
      rw [List.nil_append, Text.pieces_nil, List.nil_append] at hs hlit'
      rw [hs, List.cons_append, hlit', hf.pieces_append_of_no_brace lit he]
      exact .char (w := '\\' :: e) hc (respelled_pieces hf hσ hlit)
  termination_by s => s.length
  decreasing_by all_goals simp only [List.length_cons, List.length_drop]; omega

theorem Respelled.hits_eq (h : Respelled σ ps qs) : hits qs = hits ps := by
  induction h with
  | nil => rfl
  | char _ _ ih => rw [Text.hits_append, Text.hits_map_char, List.nil_append, ih]; rfl
  | @hit a _ _ _ ih => exact congrArg (a :: ·) ih

/-- Matches filled with spelled values make a literal of the text filled with the values. -/
theorem Respelled.literal (h : Respelled σ ps qs) (hστ : ∀ c w, σ c w → τ c w)
    {f g : α → List Char} (hfg : ∀ a, Literal τ (f a) (g a)) :
    Literal τ (fillPieces f ps) (fillPieces g qs) := by
  induction h with
  | nil => exact .nil
  | char hc _ ih =>
    rw [Text.fillPieces_append, Text.fillPieces_map_char]
    exact .cons (hστ _ _ hc) ih
  | @hit a _ _ _ ih => exact (hfg a).append ih

end Issuance.Placeholder

import Issuance.Instant
import Issuance.Proofs.Json.Compact

/-! # The characters of timestamps

    A timestamp is written with digits, signs, colons and two letters, whatever the instant. So it
    may stand in a string literal as it is, and it opens no placeholder. -/

namespace Issuance

/-- The characters that timestamps are written with. -/
def isTimestampChar (c : Char) : Bool :=
  Json.isDigit c || c == '-' || c == '+' || c == ':' || c == 'T' || c == 'Z'

variable {c : Char}

theorem isTimestampChar_of_mem_padded {width n : Nat} (h : c ∈ padded width n) :
    isTimestampChar c = true := by
  have hdigit : Json.isDigit c = true := by
    rcases List.mem_append.mp h with h | h
    · rw [List.eq_of_mem_replicate h]; decide
    · exact Json.isDigit_of_mem_digitsOf h
  simp [isTimestampChar, hdigit]

theorem isTimestampChar_of_mem_yearText {year : Int} (h : c ∈ yearText year) :
    isTimestampChar c = true := by
  rw [yearText] at h
  by_cases hplain : 0 ≤ year ∧ year ≤ 9999
  · rw [if_pos hplain] at h
    exact isTimestampChar_of_mem_padded h
  · rw [if_neg hplain] at h
    rcases List.mem_cons.mp h with rfl | h
    · split <;> decide
    · exact isTimestampChar_of_mem_padded h

/-- Every character of a timestamp is one of few. -/
theorem isTimestampChar_of_mem_text {t : Instant} (h : c ∈ t.text) : isTimestampChar c = true := by
  simp only [Instant.text, Date.text, clockText, List.mem_append, List.mem_cons, List.cons_append,
    List.append_assoc, List.not_mem_nil, or_false] at h
  rcases h with h | rfl | h | rfl | h | rfl | h | rfl | h | rfl | h | rfl
  · exact isTimestampChar_of_mem_yearText h
  · decide
  · exact isTimestampChar_of_mem_padded h
  · decide
  · exact isTimestampChar_of_mem_padded h
  · decide
  · exact isTimestampChar_of_mem_padded h
  · decide
  · exact isTimestampChar_of_mem_padded h
  · decide
  · exact isTimestampChar_of_mem_padded h
  · decide

theorem toNat_of_isTimestampChar (h : isTimestampChar c = true) :
    0x2B ≤ c.toNat ∧ c.toNat ≤ 0x5A := by
  simp only [isTimestampChar, Json.isDigit, Bool.or_eq_true, Bool.and_eq_true, decide_eq_true_eq,
    beq_iff_eq] at h
  rcases h with ((((⟨h0, h9⟩ | rfl) | rfl) | rfl) | rfl) | rfl
  · have hlow : 0x30 ≤ c.toNat := h0
    have hhigh : c.toNat ≤ 0x39 := h9
    omega
  all_goals decide

theorem isRaw_of_isTimestampChar (h : isTimestampChar c = true) : Json.isRaw c = true := by
  have hrange := toNat_of_isTimestampChar h
  refine Json.isRaw_iff.mpr ⟨?_, ?_, by omega⟩
  · rintro rfl; exact absurd hrange (by decide)
  · rintro rfl; exact absurd hrange (by decide)

theorem ne_dollar_of_isTimestampChar (h : isTimestampChar c = true) : c ≠ '$' := by
  rintro rfl
  cases h

theorem Instant.text_ne_nil (t : Instant) : t.text ≠ [] := by
  simp [Instant.text]

end Issuance

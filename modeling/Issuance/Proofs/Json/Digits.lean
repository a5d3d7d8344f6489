import Issuance.Proofs.Json.Compact

/-! # Digits tell numbers apart

    A number is read back from its digits, so no two numbers are written with the same ones, and no
    two integers with the same sign and digits. -/

namespace Issuance.Json

theorem digitsOf_injective : Function.Injective digitsOf :=
  Function.LeftInverse.injective (g := fun s => Nat.ofDigitChars 10 s 0)
    fun _ => Nat.ofDigitChars_toDigits (by decide) (by decide)

theorem numeral_injective : Function.Injective numeral :=
  fun _ _ h => digitsOf_injective (String.ofList_injective h)

theorem length_digitsOf_le_iff {n k : Nat} (hk : 0 < k) : (digitsOf n).length ≤ k ↔ n < 10 ^ k :=
  Nat.length_toDigits_le_iff (by decide) hk

theorem not_mem_digitsOf {c : Char} (hc : isDigit c = false) (n : Nat) : c ∉ digitsOf n := by
  intro h
  rw [isDigit_of_mem_digitsOf h] at hc
  cases hc

theorem integerText_injective : Function.Injective integerText := by
  have hsign : ∀ m n, digitsOf m ≠ '-' :: digitsOf n :=
    fun m n h => not_mem_digitsOf (by decide) m (h ▸ List.mem_cons_self)
  intro m n h
  cases m with
  | ofNat m =>
    cases n with
    | ofNat n => exact congrArg Int.ofNat (digitsOf_injective h)
    | negSucc n => exact absurd h (hsign m (n + 1))
  | negSucc m =>
    cases n with
    | ofNat n => exact absurd h.symm (hsign n (m + 1))
    | negSucc n =>
      exact congrArg Int.negSucc (Nat.succ_inj.mp (digitsOf_injective (List.cons.inj h).2))

end Issuance.Json

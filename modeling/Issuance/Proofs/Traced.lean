import Issuance.Traced

/-! # Outcomes

    What a traced computation that goes on with another comes to: the other's outcome, with both
    traces in order; or, if the first ends in an error, that error and the trace up to there. -/

namespace Issuance

theorem toOption_eq_some_iff {ε α : Type} {x : Except ε α} {a : α} :
    x.toOption = some a ↔ x = .ok a := by
  cases x <;> simp [Except.toOption]

namespace Traced

variable {ε α β γ : Type} {x : Traced ε α} {f : α → Traced ε β}

theorem bind_of_ok {a : α} (h : x.outcome = .ok a) :
    x >>= f = ⟨x.trace ++ (f a).trace, (f a).outcome⟩ := by
  change x.bind f = _
  rw [Traced.bind, h]

theorem bind_of_error {e : Error} (h : x.outcome = .error e) : x >>= f = ⟨x.trace, .error e⟩ := by
  change x.bind f = _
  rw [Traced.bind, h]

theorem outcome_bind_eq_ok_iff {b : β} :
    (x >>= f).outcome = .ok b ↔ ∃ a, x.outcome = .ok a ∧ (f a).outcome = .ok b := by
  cases h : x.outcome with
  | error e => rw [bind_of_error h]; simp
  | ok a => rw [bind_of_ok h]; simp

theorem bind_assoc (x : Traced ε α) (f : α → Traced ε β) (g : β → Traced ε γ) :
    x >>= f >>= g = x >>= fun a => f a >>= g := by
  cases hx : x.outcome with
  | error e => rw [bind_of_error hx, bind_of_error hx, bind_of_error rfl]
  | ok a =>
    cases hf : (f a).outcome with
    | error e =>
      have hxf : (x >>= f).outcome = .error e := by rw [bind_of_ok hx, hf]
      rw [bind_of_error hxf, bind_of_ok hx, bind_of_ok hx, bind_of_error hf]
    | ok b =>
      have hxf : (x >>= f).outcome = .ok b := by rw [bind_of_ok hx, hf]
      rw [bind_of_ok hxf, bind_of_ok hx, bind_of_ok hx, bind_of_ok hf, List.append_assoc]

end Traced

end Issuance

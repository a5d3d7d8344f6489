import Issuance.Proofs.Credential.Finished
import Issuance.Proofs.Json.Spread
import Issuance.Proofs.Json.WholeNumbers

/-! # Printed credentials

    The body of a credential is an object that was read from a text, completed by members without
    numbers. So its whole numbers are read back from their digits, and it is no deeper than what can
    be read: what is printed of it is read as the body again, as far as its magnitudes are. -/

namespace Issuance

variable {n : Json.Number} {did : String} {issued : Instant} {tokenSource : String}
  {body : Json.Object}

/-- Completing brings in no number. -/
theorem number_mem_leaves_of_complete
    (h : .number n ∈ (Json.object (complete did issued tokenSource body)).leaves) :
    .number n ∈ (Json.object body).leaves := by
  have hinsert : ∀ {name : String} {v : Json} {o : Json.Object}, .number n ∉ v.leaves →
      .number n ∈ Json.memberLeaves (o.insert name v) → .number n ∈ Json.memberLeaves o := by
    intro name v o hv hmem
    rcases Json.mem_memberLeaves_insert hmem with h | h | h
    · cases h
    · exact absurd h hv
    · exact h
  have hstep : ∀ {name : String} {v : Json} {o : Json.Object}, .number n ∉ v.leaves →
      .number n ∈ Json.memberLeaves (fillIn name v o) → .number n ∈ Json.memberLeaves o := by
    intro name v o hv hmem
    rw [fillIn] at hmem
    split at hmem
    · exact hinsert hv hmem
    · exact hmem
  exact hinsert (by simp [Json.leaves]) <| hstep (by simp [Json.leaves, Json.itemLeaves]) <|
    hstep (by simp [Json.ofText, Json.leaves]) <| hstep (by simp [Json.leaves]) h

namespace Renderer

variable {r : Renderer} {t : Template} {ctx : RenderContext} {u : Usage} {cred : Credential}

/-- A whole number in the body of a credential is read back from its digits. -/
theorem readsBack_of_outcome (h : (r.render t ctx u).result.outcome = .ok cred) {n : Int}
    (hn : .number (.whole n) ∈ (Json.object cred.body).leaves) :
    (Json.Number.whole n).ReadsBack := by
  obtain ⟨read, hread, rfl⟩ := exists_readBody_of_outcome h
  exact Json.readsBack_of_parse (readBody_eq_ok_iff.mp hread) (number_mem_leaves_of_complete hn)

/-- What is printed of a credential is read as its body again, if the magnitudes in it are read
    back from their written forms. -/
theorem parse_spread_of_outcome (h : (r.render t ctx u).result.outcome = .ok cred)
    (hmagnitudes : ∀ negative x, .number (.float negative x) ∈ (Json.object cred.body).leaves →
      (Json.Number.float negative x).ReadsBack) :
    Json.parse (Json.spread (.object cred.body)) = .ok (.object cred.body) := by
  have hnumbers : ∀ n, .number n ∈ (Json.object cred.body).leaves → n.ReadsBack := by
    intro n hn
    cases n with
    | whole n => exact readsBack_of_outcome h hn
    | float negative x => exact hmagnitudes negative x hn
  exact Json.parse_of_writes (Json.writes_spread hnumbers) (finished_of_outcome h).2

end Renderer
end Issuance

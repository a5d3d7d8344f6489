import Issuance.Proofs.Credential.Consumption

/-! # Token ids that are filled in

    A token id that is filled in holds the second of its rendering and the first five letters and
    digits of an id of its own. Ids of the sequence start with two letters, so three digits of the
    number of the id are left. They tell the renderings of one second apart up to the id `id-999`,
    and no further. -/

namespace Issuance

/-! ### What is left of an id -/

theorem isAlphanum_of_isDigit {c : Char} (h : Json.isDigit c = true) : c.isAlphanum = true := by
  have hdigit : c.isDigit = true := by
    simpa [Json.isDigit, Char.isDigit, Char.le_def] using h
  rw [Char.isAlphanum, hdigit, Bool.or_true]

/-- The first digits of a number. -/
def leadingDigits (n : Nat) : List Char := (Json.digitsOf n).take 3

/-- Three digits of the number of the id come into a token id. -/
theorem tokenId_sequentialIds (t : Instant) (n : Nat) :
    tokenId t (sequentialIds n) = String.ofList
      ("vc-".toList ++ (Json.integerText t.seconds ++ '-' :: 'i' :: 'd' :: leadingDigits (n + 1))) := by
  have hdigits : (Json.digitsOf (n + 1)).filter Char.isAlphanum = Json.digitsOf (n + 1) :=
    List.filter_eq_self.mpr fun c hc => isAlphanum_of_isDigit (Json.isDigit_of_mem_digitsOf hc)
  have hid : (sequentialIds n).toList.filter Char.isAlphanum =
      'i' :: 'd' :: Json.digitsOf (n + 1) := by
    have htext : (sequentialIds n).toList = 'i' :: 'd' :: '-' :: Json.digitsOf (n + 1) := by
      simp [sequentialIds, Json.numeral]
    rw [htext, List.filter_cons_of_pos rfl, List.filter_cons_of_pos rfl,
      List.filter_cons_of_neg (by decide), hdigits]
  change String.ofList ("vc-".toList ++ Json.integerText t.seconds ++
    '-' :: ((sequentialIds n).toList.filter Char.isAlphanum).take 5) = _
  rw [hid, List.append_assoc]
  rfl

/-- Texts with the same last separator have the same parts around it. -/
theorem eq_and_eq_of_append_cons {sep : Char} {s s' t t' : List Char} (ht : sep ∉ t)
    (ht' : sep ∉ t') (h : s ++ sep :: t = s' ++ sep :: t') : s = s' ∧ t = t' := by
  have hreverse := congrArg List.reverse h
  simp only [List.reverse_append, List.reverse_cons, List.append_assoc, List.singleton_append]
    at hreverse
  have hcut := congrArg (Text.cut sep) hreverse
  rw [Text.cut_append_cons _ (by simpa using ht), Text.cut_append_cons _ (by simpa using ht')]
    at hcut
  obtain ⟨hlast, hfirst⟩ := Prod.mk.inj (Option.some.inj hcut)
  exact ⟨List.reverse_injective hfirst, List.reverse_injective hlast⟩

/-- Two token ids are the same just when second and leading digits are. -/
theorem tokenId_eq_iff {t t' : Instant} {m n : Nat} :
    tokenId t (sequentialIds m) = tokenId t' (sequentialIds n) ↔
      t.seconds = t'.seconds ∧ leadingDigits (m + 1) = leadingDigits (n + 1) := by
  have hdash : ∀ n, '-' ∉ 'i' :: 'd' :: leadingDigits n := by
    intro n
    have hdigits : '-' ∉ leadingDigits n := fun hmem =>
      Json.not_mem_digitsOf (by decide) n (List.mem_of_mem_take hmem)
    simpa using hdigits
  rw [tokenId_sequentialIds, tokenId_sequentialIds]
  constructor
  · intro h
    have htexts := List.append_cancel_left (String.ofList_injective h)
    obtain ⟨hseconds, hdigits⟩ := eq_and_eq_of_append_cons (hdash _) (hdash _) htexts
    exact ⟨Json.integerText_injective hseconds, by simpa using hdigits⟩
  · rintro ⟨hseconds, hdigits⟩
    rw [hseconds, hdigits]

/-- Numbers below a thousand are their leading digits. -/
theorem eq_of_leadingDigits_eq {m n : Nat} (hm : m < 1000) (hn : n < 1000)
    (h : leadingDigits m = leadingDigits n) : m = n := by
  have hall : ∀ {k}, k < 1000 → leadingDigits k = Json.digitsOf k := fun hk =>
    List.take_of_length_le ((Json.length_digitsOf_le_iff (by decide)).mpr hk)
  rw [hall hm, hall hn] at h
  exact Json.digitsOf_injective h

/-! ### Token ids of one run -/

namespace Renderer

/-- The answer to a request is a credential whose token id is filled in. -/
def FillsIn (r : Renderer) (q : Request) (u : Usage) (token : String) : Prop :=
  ∃ body cred, q.check = .ok () ∧ r.parsed q u = .ok body ∧ needsToken body = true ∧
    (r.answer q u).result.outcome = .ok cred ∧ cred.body.get? "jti" = some (.string token)

variable {r : Renderer} {q : Request} {u : Usage} {token : String}

/-- A token id is filled in wherever the object that was read leaves it empty. -/
theorem fillsIn_of_parsed {body : Json.Object} (hcheck : q.check = .ok ())
    (hbody : r.parsed q u = .ok body) (htoken : needsToken body = true) :
    r.FillsIn q u (tokenId (r.clock u.clockReads) (r.ids (u.idsTaken + 1))) :=
  ⟨body, _, hcheck, hbody, htoken, outcome_of_readBody hcheck hbody,
    get?_complete_jti q.context.org.did _ _ htoken⟩

theorem FillsIn.eq_tokenId (h : r.FillsIn q u token) :
    token = tokenId (r.clock u.clockReads) (r.ids (u.idsTaken + 1)) := by
  obtain ⟨body, cred, hcheck, hbody, htoken, houtcome, hjti⟩ := h
  cases (outcome_of_readBody hcheck hbody).symm.trans houtcome
  rw [get?_complete_jti _ _ _ htoken] at hjti
  cases hjti
  rfl

theorem FillsIn.usage (h : r.FillsIn q u token) :
    (r.answer q u).usage = ⟨u.clockReads + 1, u.idsTaken + 2⟩ := by
  obtain ⟨body, -, hcheck, hbody, htoken, -, -⟩ := h
  rw [answer_of_parsed hcheck hbody, if_pos htoken]

/-- Requests that are answered later find more ids taken. -/
theorem idsTaken_le_usageAfter (r : Renderer) (u : Usage) (qs : List Request) :
    u.idsTaken ≤ (r.usageAfter u qs).idsTaken := by
  rw [idsTaken_usageAfter]
  exact Nat.le_add_right _ _

theorem usageAfter_append_cons (r : Renderer) (u : Usage) (before between : List Request)
    (q : Request) : r.usageAfter u (before ++ q :: between) =
      r.usageAfter (r.answer q (r.usageAfter u before)).usage between := by
  rw [usageAfter, List.foldl_append]
  rfl

/-- A request whose skeleton holds nothing. -/
def emptyRequest : Request := ⟨Specimen.template (.object []), Specimen.context⟩

theorem fillsIn_emptyRequest (r : Renderer) (u : Usage) :
    r.FillsIn emptyRequest u (tokenId (r.clock u.clockReads) (r.ids (u.idsTaken + 1))) := by
  have hbody : r.parsed emptyRequest u = .ok [] := rfl
  exact fillsIn_of_parsed rfl hbody rfl

/-- Each such request takes two ids. -/
theorem usageAfter_replicate_emptyRequest (r : Renderer) : ∀ (n : Nat) (u : Usage),
    r.usageAfter u (List.replicate n emptyRequest) = ⟨u.clockReads + n, u.idsTaken + 2 * n⟩
  | 0, _ => rfl
  | n + 1, u => by
    rw [List.replicate_succ, usageAfter_cons, (fillsIn_emptyRequest r u).usage,
      r.usageAfter_replicate_emptyRequest n, Usage.mk.injEq]
    constructor <;> dsimp only <;> omega

/-- The token ids of such requests are made from every other id. -/
theorem fillsIn_replicate_emptyRequest (r : Renderer) (n : Nat) :
    r.FillsIn emptyRequest (r.usageAfter {} (List.replicate n emptyRequest))
      (tokenId (r.clock n) (r.ids (2 * n + 1))) := by
  have h := fillsIn_emptyRequest r (r.usageAfter {} (List.replicate n emptyRequest))
  rw [r.usageAfter_replicate_emptyRequest, Nat.zero_add, Nat.zero_add] at h ⊢
  exact h

/-- Two token ids that are filled in along a run are the same just when their renderings read the
    same second and the numbers of their ids have the same leading digits. So they differ as long as
    the later one is made from an id below `id-1000`. -/
theorem token_eq_iff (clock : Nat → Instant) (escaping : Placeholder.Escaping)
    (before between : List Request) (q q' : Request) (token token' : String) :
    let r := sequential clock escaping
    let u := r.usageAfter {} before
    let u' := r.usageAfter {} (before ++ q :: between)
    r.FillsIn q u token → r.FillsIn q' u' token' →
      (token = token' ↔ (clock u.clockReads).seconds = (clock u'.clockReads).seconds ∧
        leadingDigits (u.idsTaken + 2) = leadingDigits (u'.idsTaken + 2)) ∧
      (u'.idsTaken + 2 < 1000 → token ≠ token') := by
  intro r u u' h h'
  have hsame : token = token' ↔ (clock u.clockReads).seconds = (clock u'.clockReads).seconds ∧
      leadingDigits (u.idsTaken + 2) = leadingDigits (u'.idsTaken + 2) := by
    rw [h.eq_tokenId, h'.eq_tokenId]
    exact tokenId_eq_iff
  refine ⟨hsame, fun hbelow heq => ?_⟩
  have hlater : u.idsTaken + 2 ≤ u'.idsTaken :=
    calc u.idsTaken + 2 = (r.answer q u).usage.idsTaken := by rw [h.usage]
      _ ≤ (r.usageAfter (r.answer q u).usage between).idsTaken := r.idsTaken_le_usageAfter _ _
      _ = u'.idsTaken := by rw [← usageAfter_append_cons]
  have hnumber := eq_of_leadingDigits_eq (by omega) hbelow (hsame.mp heq).2
  omega

/-- The token ids of the first two such requests differ. -/
theorem token_eq_iff_specimen :
    standing.FillsIn emptyRequest (standing.usageAfter {} []) "vc-0-id2" ∧
      standing.FillsIn emptyRequest (standing.usageAfter {} ([] ++ emptyRequest :: []))
        "vc-0-id4" ∧ "vc-0-id2" ≠ "vc-0-id4" := by
  have hfirst := fillsIn_replicate_emptyRequest standing 0
  have hsecond := fillsIn_replicate_emptyRequest standing 1
  rw [show tokenId _ _ = "vc-0-id2" by decide +kernel] at hfirst
  rw [show tokenId _ _ = "vc-0-id4" by decide +kernel] at hsecond
  have hbelow : (standing.usageAfter {} ([] ++ emptyRequest :: [])).idsTaken + 2 < 1000 := by
    decide +kernel
  exact ⟨hfirst, hsecond,
    (token_eq_iff (fun _ => ⟨0, 0⟩) .verbatim [] [] _ _ _ _ hfirst hsecond).2 hbelow⟩

/-- With a clock that stands still the ids `id-100` and `id-1000` make the same token id. -/
theorem token_repeated :
    standing.FillsIn emptyRequest (standing.usageAfter {} (List.replicate 49 emptyRequest))
        "vc-0-id100" ∧
      standing.FillsIn emptyRequest (standing.usageAfter {}
        (List.replicate 49 emptyRequest ++ emptyRequest :: List.replicate 449 emptyRequest))
          "vc-0-id100" := by
  have hfirst := fillsIn_replicate_emptyRequest standing 49
  have hsecond := fillsIn_replicate_emptyRequest standing 499
  have hrun : List.replicate 49 emptyRequest ++ emptyRequest :: List.replicate 449 emptyRequest =
      List.replicate 499 emptyRequest := by
    rw [← List.replicate_succ, List.replicate_append_replicate]
  rw [show tokenId _ _ = "vc-0-id100" by decide +kernel] at hfirst hsecond
  rw [hrun]
  exact ⟨hfirst, hsecond⟩

end Renderer
end Issuance

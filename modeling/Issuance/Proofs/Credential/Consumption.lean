import Issuance.Proofs.Credential.Completion
import Issuance.Proofs.Json.Digits
import Issuance.Proofs.Placeholder.Occurrence

/-! # What a run of renderings takes

    Requests are answered one after the other, each with the clock and the ids where the last one
    left them. A request that lacks a value takes nothing; every other one reads the clock once and
    takes an id, and one more if it fills in a token id. So along a run the ids are taken in order,
    none twice. -/

namespace Issuance

/-- What a rendering is asked for. -/
structure Request where
  template : Template
  context : RenderContext

/-- Whether every required field has a value. -/
def Request.check (q : Request) : Except Error Unit :=
  q.template.validate (q.template.values q.context.form)

namespace Renderer

/-- The rendering for a request. -/
def answer (r : Renderer) (q : Request) (u : Usage) : Rendering := r.render q.template q.context u

/-- The object that the filled skeleton of a request is. -/
def parsed (r : Renderer) (q : Request) (u : Usage) : Except Error Json.Object :=
  readBody (q.template.filled r.escaping (r.builtins u) q.context)

/-- The ids that the answer to a request takes. -/
def idsOf (r : Renderer) (q : Request) (u : Usage) : List String :=
  (List.range' u.idsTaken ((r.answer q u).usage.idsTaken - u.idsTaken)).map r.ids

/-- What was used after a run of requests. -/
def usageAfter (r : Renderer) (u : Usage) (qs : List Request) : Usage :=
  qs.foldl (fun u q => (r.answer q u).usage) u

/-- The ids that a run of requests takes, one after the other. -/
def idsOver (r : Renderer) : Usage → List Request → List String
  | _, [] => []
  | u, q :: rest => r.idsOf q u ++ r.idsOver (r.answer q u).usage rest

/-- How the answer to a request ends, with how often it reads the clock and the ids it takes: the
    first is the id of the rendering, the second the one that a token id is made from. -/
inductive Ends (r : Renderer) (q : Request) (u : Usage) : Nat → List String → Prop
  | refused (id : String) : q.check = .error (.missingRequiredField id) →
      (r.answer q u).result.outcome = .error (.missingRequiredField id) → Ends r q u 0 []
  | unread (e : Error) : q.check = .ok () → r.parsed q u = .error e →
      ((∃ d, e = .renderFailure d) ∨ ∃ v, e = .bodyNotObject v) →
      (r.answer q u).result.outcome = .error e → Ends r q u 1 [r.ids u.idsTaken]
  | kept (body : Json.Object) (cred : Credential) : q.check = .ok () → r.parsed q u = .ok body →
      needsToken body = false → (r.answer q u).result.outcome = .ok cred →
      cred.body.get? "jti" = body.get? "jti" → Ends r q u 1 [r.ids u.idsTaken]
  | filledIn (body : Json.Object) (cred : Credential) : q.check = .ok () →
      r.parsed q u = .ok body → needsToken body = true →
      (r.answer q u).result.outcome = .ok cred →
      cred.body.get? "jti" =
        some (.string (tokenId (r.clock u.clockReads) (r.ids (u.idsTaken + 1)))) →
      Ends r q u 1 [r.ids u.idsTaken, r.ids (u.idsTaken + 1)]

variable {r : Renderer} {q : Request} {u : Usage} {body : Json.Object}

/-! ### One request -/

theorem answer_of_check_error {e : Error} (h : q.check = .error e) :
    r.answer q u = ⟨⟨[.rendering q.template.key], .error e⟩, u⟩ := by
  rw [Request.check] at h
  rw [answer, render, h]

theorem answer_of_parsed_error {e : Error} (hcheck : q.check = .ok ())
    (h : r.parsed q u = .error e) :
    r.answer q u =
      { result := ⟨.rendering q.template.key ::
          q.template.missingRecords (r.builtins u) q.context, .error e⟩
        usage := ⟨u.clockReads + 1, u.idsTaken + 1⟩ } := by
  rw [Request.check] at hcheck
  rw [parsed] at h
  simp only [answer, render, hcheck, h]

theorem answer_of_parsed (hcheck : q.check = .ok ()) (h : r.parsed q u = .ok body) :
    r.answer q u =
      { result := ⟨.rendering q.template.key ::
          q.template.missingRecords (r.builtins u) q.context ++ [.rendered q.template.key],
          .ok ⟨q.template.toSummary, complete q.context.org.did (r.clock u.clockReads)
            (r.ids (u.idsTaken + 1)) body⟩⟩
        usage := ⟨u.clockReads + 1, u.idsTaken + if needsToken body then 2 else 1⟩ } := by
  rw [Request.check] at hcheck
  rw [parsed] at h
  simp only [answer, render, hcheck, h]
  congr 1
  split <;> rfl

/-- The ids taken are those between the two counts. -/
theorem idsOf_of_usage {reads taken : Nat}
    (h : (r.answer q u).usage = ⟨u.clockReads + reads, u.idsTaken + taken⟩) :
    r.idsOf q u = (List.range' u.idsTaken taken).map r.ids := by
  rw [idsOf, h, Nat.add_sub_cancel_left]

/-- Every request is answered in one of four ways. -/
theorem ends_answer (r : Renderer) (q : Request) (u : Usage) :
    ∃ reads, r.Ends q u reads (r.idsOf q u) ∧
      (r.answer q u).usage = ⟨u.clockReads + reads, u.idsTaken + (r.idsOf q u).length⟩ := by
  rcases q.template.validate_eq_ok_or (q.template.values q.context.form) with hcheck | ⟨id, hcheck⟩
  · cases hbody : r.parsed q u with
    | error e =>
      have husage := congrArg Rendering.usage (answer_of_parsed_error hcheck hbody)
      have hends := Ends.unread e hcheck hbody (readBody_error_cases hbody)
        (outcome_of_readBody_error hcheck hbody)
      rw [idsOf_of_usage husage]
      exact ⟨1, hends, husage⟩
    | ok body =>
      have husage := congrArg Rendering.usage (answer_of_parsed hcheck hbody)
      have houtcome := outcome_of_readBody hcheck hbody
      rw [idsOf_of_usage husage]
      -- Only here the number of ids depends on what was read.
      cases htoken : needsToken body with
      | false =>
        rw [htoken] at husage
        have hkept := get?_complete_of_kept q.context.org.did (r.clock u.clockReads)
          (r.ids (u.idsTaken + 1)) (by decide) fun _ => htoken
        exact ⟨1, .kept body _ hcheck hbody htoken houtcome hkept, husage⟩
      | true =>
        rw [htoken] at husage
        exact ⟨1, .filledIn body _ hcheck hbody htoken houtcome (get?_complete_jti _ _ _ htoken),
          husage⟩
  · have husage : (r.answer q u).usage = ⟨u.clockReads + 0, u.idsTaken + 0⟩ :=
      congrArg Rendering.usage (answer_of_check_error hcheck)
    rw [idsOf_of_usage husage]
    exact ⟨0, .refused id hcheck (outcome_of_validate_error hcheck), husage⟩

/-! ### Nothing else is used -/

/-- Renderers with the same escaping, and the same readings and ids from one usage to another. -/
structure AgreesOver (r r' : Renderer) (u u' : Usage) : Prop where
  escaping : r'.escaping = r.escaping
  clock : ∀ n, u.clockReads ≤ n → n < u'.clockReads → r'.clock n = r.clock n
  ids : ∀ n, u.idsTaken ≤ n → n < u'.idsTaken → r'.ids n = r.ids n

variable {r' : Renderer} {taken : Nat}

/-- They fill the reserved placeholders alike, if the clock is read and an id is taken. -/
theorem AgreesOver.builtins_eq
    (h : r.AgreesOver r' u ⟨u.clockReads + 1, u.idsTaken + taken⟩) (htaken : 0 < taken) :
    r'.clock u.clockReads = r.clock u.clockReads ∧ r'.builtins u = r.builtins u := by
  have hclock := h.clock u.clockReads le_rfl (Nat.lt_succ_self _)
  have hid := h.ids u.idsTaken le_rfl (Nat.lt_add_of_pos_right htaken)
  exact ⟨hclock, by rw [builtins, builtins, hclock, hid]⟩

/-- They complete an object alike, if as many ids are taken as it needs. -/
theorem AgreesOver.complete_eq (did : String)
    (h : r.AgreesOver r' u
      ⟨u.clockReads + 1, u.idsTaken + if needsToken body then 2 else 1⟩) :
    complete did (r'.clock u.clockReads) (r'.ids (u.idsTaken + 1)) body =
      complete did (r.clock u.clockReads) (r.ids (u.idsTaken + 1)) body := by
  rw [h.clock u.clockReads le_rfl (Nat.lt_succ_self _)]
  cases htoken : needsToken body with
  | false => exact complete_congr _ _ _ htoken _
  | true =>
    rw [htoken] at h
    rw [h.ids (u.idsTaken + 1) (Nat.le_succ _) (Nat.lt_succ_self _)]

/-- The answer to a request depends on nothing of the clock and the ids but what it takes. -/
theorem answer_congr (h : r.AgreesOver r' u (r.answer q u).usage) :
    r'.answer q u = r.answer q u := by
  have hparsed : r'.builtins u = r.builtins u → r'.parsed q u = r.parsed q u := by
    intro hb
    rw [parsed, parsed, h.escaping, hb]
  cases hcheck : q.check with
  | error e => rw [answer_of_check_error hcheck, answer_of_check_error hcheck]
  | ok =>
    cases hbody : r.parsed q u with
    | error e =>
      have hanswer := answer_of_parsed_error hcheck hbody
      rw [hanswer] at h ⊢
      obtain ⟨-, hb⟩ := h.builtins_eq Nat.one_pos
      rw [answer_of_parsed_error hcheck ((hparsed hb).trans hbody), hb]
    | ok body =>
      have hanswer := answer_of_parsed hcheck hbody
      rw [hanswer] at h ⊢
      obtain ⟨-, hb⟩ := h.builtins_eq (by split <;> decide)
      rw [answer_of_parsed hcheck ((hparsed hb).trans hbody), hb, h.complete_eq]

/-! ### Runs of requests -/

theorem usageAfter_cons (r : Renderer) (u : Usage) (q : Request) (rest : List Request) :
    r.usageAfter u (q :: rest) = r.usageAfter (r.answer q u).usage rest := rfl

/-- A run takes as many ids as it is counted to take. -/
theorem idsTaken_usageAfter (r : Renderer) : ∀ (qs : List Request) (u : Usage),
    (r.usageAfter u qs).idsTaken = u.idsTaken + (r.idsOver u qs).length
  | [], _ => rfl
  | q :: rest, u => by
    obtain ⟨reads, -, husage⟩ := r.ends_answer q u
    rw [usageAfter_cons, r.idsTaken_usageAfter rest, idsOver, List.length_append, husage]
    exact Nat.add_assoc _ _ _

/-- A run takes the ids in order. -/
theorem idsOver_eq (r : Renderer) : ∀ (qs : List Request) (u : Usage),
    r.idsOver u qs = (List.range' u.idsTaken (r.idsOver u qs).length).map r.ids
  | [], _ => rfl
  | q :: rest, u => by
    obtain ⟨reads, -, husage⟩ := r.ends_answer q u
    have hfirst : r.idsOf q u = (List.range' u.idsTaken (r.idsOf q u).length).map r.ids :=
      idsOf_of_usage husage
    have hrest := r.idsOver_eq rest (r.answer q u).usage
    have hnext : (r.answer q u).usage.idsTaken = u.idsTaken + (r.idsOf q u).length := by
      rw [husage]
    rw [hnext] at hrest
    rw [idsOver, List.length_append, ← List.range'_append_1, List.map_append, ← hfirst, ← hrest]

theorem idsOver_append (r : Renderer) : ∀ (first rest : List Request) (u : Usage),
    r.idsOver u (first ++ rest) = r.idsOver u first ++ r.idsOver (r.usageAfter u first) rest
  | [], _, _ => rfl
  | q :: first, rest, u => by
    rw [List.cons_append, idsOver, idsOver, r.idsOver_append first rest, usageAfter_cons,
      List.append_assoc]

/-- No two ids of the sequence are the same, since no two numbers have the same digits. -/
theorem sequentialIds_injective : Function.Injective sequentialIds := by
  intro m n h
  have hnumeral : Json.numeral (m + 1) = Json.numeral (n + 1) := String.append_right_inj _ |>.mp h
  exact Nat.succ_inj.mp (Json.numeral_injective hnumeral)

/-- A renderer with a clock and the sequence of ids. -/
def sequential (clock : Nat → Instant) (escaping : Placeholder.Escaping) : Renderer :=
  { clock, ids := sequentialIds, escaping }

/-- Along any run the ids of the sequence are taken in order, none twice. Each request is answered
    in one of four ways, reads the clock and takes ids accordingly, and depends on no other reading
    and no other id; the id of its rendering is the next one after all those that the requests
    before it took, and stands in every place where the skeleton asks for it. -/
theorem ids_taken_in_order (clock : Nat → Instant) (escaping : Placeholder.Escaping)
    (before : List Request) (q : Request) (after : List Request) :
    let r := sequential clock escaping
    let u := r.usageAfter {} before
    let b := r.builtins u
    (∃ reads, r.Ends q u reads (r.idsOf q u) ∧
      (r.answer q u).usage = ⟨u.clockReads + reads, u.idsTaken + (r.idsOf q u).length⟩) ∧
    (∀ r' : Renderer, r.AgreesOver r' u (r.answer q u).usage → r'.answer q u = r.answer q u) ∧
    b.uuid = ("id-" ++ Json.numeral (1 + (r.idsOver {} before).length)).toList ∧
    (∀ s t, q.template.source = s ++ (Placeholder.uuidPlaceholder ++ t) →
      q.template.filled escaping b q.context =
        Placeholder.fillPaths q.template.grammar escaping (q.template.scope q.context)
          (Placeholder.fillBuiltins b s ++ (b.uuid ++ Placeholder.fillBuiltins b t))) ∧
    (r.idsOver {} before ++ (r.idsOf q u ++ r.idsOver (r.answer q u).usage after)).Nodup := by
  intro r u b
  have htaken : u.idsTaken = (r.idsOver {} before).length :=
    (r.idsTaken_usageAfter before {}).trans (Nat.zero_add _)
  refine ⟨r.ends_answer q u, fun r' h => answer_congr h, ?_, fun s t hsource => ?_, ?_⟩
  · change (sequentialIds u.idsTaken).toList = _
    rw [htaken, sequentialIds, Nat.add_comm]
  · rw [Template.filled, Placeholder.fillAll, hsource, Placeholder.fillBuiltins_uuid]
  · have hrun := r.idsOver_append before (q :: after) {}
    change _ = _ ++ (r.idsOf q u ++ r.idsOver (r.answer q u).usage after) at hrun
    rw [← hrun, r.idsOver_eq]
    exact List.Nodup.map sequentialIds_injective List.nodup_range'

/-- A request without the value that its template requires. -/
def unfilledRequest : Request :=
  ⟨Specimen.template (.object Specimen.members), ⟨Specimen.context.org, []⟩⟩

/-- A request whose skeleton asks for the id twice and sets no token id. -/
def stampedRequest : Request :=
  ⟨Specimen.template (.object [("id", Placeholder.slot "uuid"), ("same", Placeholder.slot "uuid")]),
    Specimen.context⟩

/-- A renderer with a clock that stands still. -/
def standing : Renderer := sequential (fun _ => ⟨0, 0⟩) .verbatim

/-- After two such requests the second takes the third and the fourth id, and no other id matters
    to it. -/
theorem ids_taken_in_order_specimen :
    standing.usageAfter {} [unfilledRequest, stampedRequest] = ⟨1, 2⟩ ∧
      (standing.builtins ⟨1, 2⟩).uuid = "id-3".toList ∧
      stampedRequest.template.filled .verbatim (standing.builtins ⟨1, 2⟩) Specimen.context =
        r#"{"id":"id-3","same":"id-3"}"#.toList ∧
      answer { standing with ids := fun n => if n < 4 then sequentialIds n else "" }
        stampedRequest ⟨1, 2⟩ = standing.answer stampedRequest ⟨1, 2⟩ := by
  have hbefore : standing.usageAfter {} [unfilledRequest, stampedRequest] = ⟨1, 2⟩ := by
    decide +kernel
  have hids : standing.idsOver {} [unfilledRequest, stampedRequest] = ["id-1", "id-2"] := by
    decide +kernel
  have husage : (standing.answer stampedRequest ⟨1, 2⟩).usage = ⟨2, 4⟩ := by decide +kernel
  have hsource : stampedRequest.template.source = r#"{"id":""#.toList ++
      (Placeholder.uuidPlaceholder ++ r#"","same":"{{uuid}}"}"#.toList) := by
    decide +kernel
  have horder := ids_taken_in_order (fun _ => ⟨0, 0⟩) .verbatim [unfilledRequest, stampedRequest]
    stampedRequest []
  rw [← standing] at horder
  simp only [hbefore, hids, husage] at horder
  obtain ⟨-, hagree, huuid, hplaces, -⟩ := horder
  refine ⟨hbefore, huuid.trans (by decide +kernel), (hplaces _ _ hsource).trans (by decide +kernel),
    hagree _ ⟨rfl, fun _ _ _ => rfl, fun n _ hn => if_pos hn⟩⟩

end Renderer
end Issuance

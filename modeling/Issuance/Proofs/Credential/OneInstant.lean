import Issuance.Proofs.Credential.Consumption
import Issuance.Proofs.Credential.ObjectSkeleton
import Issuance.Proofs.Timestamp

/-! # The instant of a rendering

    A rendering reads the clock once. The time in its placeholders, the date of issue that is filled
    in and the second in the token id that is filled in all come from this reading, whatever the
    clock says before and after; and the timestamp says just the second that the token id has. -/

namespace Issuance

open Placeholder (nowPlaceholder uuidPlaceholder fillPaths)

namespace Renderer

variable {r : Renderer} {t : Template} {ctx : RenderContext} {u : Usage} {cred : Credential}

/-- The instant that the next rendering reads. -/
def instant (r : Renderer) (u : Usage) : Instant := r.clock u.clockReads

/-- All placeholders of the time are filled with the timestamp of this instant. -/
theorem filled_eq (r : Renderer) (t : Template) (ctx : RenderContext) (u : Usage) :
    t.filled r.escaping (r.builtins u) ctx =
      fillPaths t.grammar r.escaping (t.scope ctx)
        (Text.replace uuidPlaceholder (r.ids u.idsTaken).toList
          (Text.replace nowPlaceholder (r.instant u).text t.source)) := rfl

/-- What the clock says at other readings does not matter. -/
theorem render_congr_clock {clock : Nat → Instant} (h : clock u.clockReads = r.instant u) :
    { r with clock := clock }.render t ctx u = r.render t ctx u := by
  rw [instant] at h
  simp only [render, builtins, h]

theorem clockReads_of_outcome (h : (r.render t ctx u).result.outcome = .ok cred) :
    (r.render t ctx u).usage.clockReads = u.clockReads + 1 := by
  obtain ⟨reads, hends, husage⟩ := r.ends_answer ⟨t, ctx⟩ u
  have hnot : ∀ e, (r.answer ⟨t, ctx⟩ u).result.outcome ≠ .error e := by
    intro e he
    cases h.symm.trans he
  have hclock : (r.render t ctx u).usage.clockReads = u.clockReads + reads :=
    congrArg Usage.clockReads husage
  generalize r.idsOf ⟨t, ctx⟩ u = ids at hends
  cases hends with
  | refused id _ houtcome => exact absurd houtcome (hnot _)
  | unread e _ _ _ houtcome => exact absurd houtcome (hnot _)
  | kept => exact hclock
  | filledIn => exact hclock

/-- A rendering that ends in a credential reads the clock once, and no other reading matters to it.
    The time in its placeholders and the date of issue that is filled in are the timestamp of this
    reading, and the token id that is filled in has the second that this timestamp denotes. A
    timestamp denotes the second of its instant and nothing else, so that those of two instants are
    the same just when their seconds are, and as texts they stand in the order of time as long as
    their years have four digits. -/
theorem one_instant (h : (r.render t ctx u).result.outcome = .ok cred) :
    (r.render t ctx u).usage.clockReads = u.clockReads + 1 ∧
    (∀ clock : Nat → Instant, clock u.clockReads = r.instant u →
      { r with clock := clock }.render t ctx u = r.render t ctx u) ∧
    (∃ read : Json.Object,
      readBody (fillPaths t.grammar r.escaping (t.scope ctx)
        (Text.replace uuidPlaceholder (r.ids u.idsTaken).toList
          (Text.replace nowPlaceholder (r.instant u).text t.source))) = .ok read ∧
      (isUnset (read.get? "issuanceDate") = true →
        cred.body.get? "issuanceDate" = some (.string (String.ofList (r.instant u).text))) ∧
      (isUnset (read.get? "jti") = true → ∃ (second : Int) (suffix : List Char),
        cred.body.get? "jti" = some (.string (String.ofList
          ("vc-".toList ++ Json.integerText second ++ '-' :: suffix))) ∧
        Denotes (r.instant u).text second)) ∧
    (∀ (i : Instant) (second : Int), Denotes i.text second ↔ second = i.seconds) ∧
    (∀ i j : Instant, i.text = j.text ↔ i.seconds = j.seconds) ∧
    (∀ i j : Instant, i.HasPlainYear → j.HasPlainYear →
      (i.text < j.text ↔ i.seconds < j.seconds)) := by
  obtain ⟨read, hread, rfl⟩ := exists_readBody_of_outcome h
  rw [filled_eq] at hread
  refine ⟨clockReads_of_outcome h, fun clock hclock => render_congr_clock hclock,
    ⟨read, hread, fun hdate => ?_, fun htoken => ?_⟩, Instant.denotes_text_iff,
    Instant.text_eq_text_iff, fun i j => Instant.text_lt_text_iff⟩
  · exact get?_complete_issuanceDate _ _ _ hdate
  · exact ⟨_, _, get?_complete_jti _ _ _ htoken, ((r.instant u).denotes_text_iff _).mpr rfl⟩

/-- A renderer that escapes values, with a clock that goes back a century at each reading, within a
    leap second. -/
def backwards : Renderer :=
  { clock := fun n => ⟨-1 - 3155760000 * n, 1500000000⟩
    ids := sequentialIds
    escaping := .jsonString }

/-- A template whose credential says the time twice. -/
def period : Template := Specimen.template (.object [("period", .string r"{{now}}/{{now}}")])

/-- What is read where the clock says the last second before 1970. -/
def readPeriod : Json.Object := [("period", .string "1969-12-31T23:59:59Z/1969-12-31T23:59:59Z")]

theorem readBody_period : readBody (period.filled backwards.escaping (backwards.builtins {})
    Specimen.context) = .ok readPeriod := by
  have hnumbers : ∀ n, .number n ∈ (Json.object
      [("period", .string r"{{now}}/{{now}}")]).leaves → n.ReadsBack := by
    intro n hn
    simp [Json.leaves, Json.memberLeaves] at hn
  obtain ⟨body, hmerged, hbody⟩ := exists_readBody_object (r := backwards) (t := period) rfl
    (by decide) hnumbers rfl (fun _ _ hc => (isRaw_of_mem_sequentialIds hc).1) Specimen.context {}
  have hname : Placeholder.verbatimFilled period.grammar (backwards.builtins {})
      (period.scope Specimen.context) "period" = "period" := by decide +kernel
  have htext : Placeholder.verbatimFilled period.grammar (backwards.builtins {})
      (period.scope Specimen.context) r"{{now}}/{{now}}" =
        "1969-12-31T23:59:59Z/1969-12-31T23:59:59Z" := by decide +kernel
  rw [Json.mapTexts, Json.mapMembers, Json.mapMembers, hname, Json.mapTexts, htext] at hmerged
  rw [hbody, readPeriod, ← Json.object.inj hmerged]
  rfl

/-- All times of a credential are those of the first reading. -/
theorem one_instant_specimen : ∃ cred suffix,
    (backwards.render period Specimen.context {}).result.outcome = .ok cred ∧
    cred.body.get? "period" = some (.string "1969-12-31T23:59:59Z/1969-12-31T23:59:59Z") ∧
    cred.body.get? "issuanceDate" = some (.string "1969-12-31T23:59:59Z") ∧
    cred.body.get? "jti" = some (.string (String.ofList ("vc--1-".toList ++ suffix))) := by
  have hvalid : period.validate (period.values Specimen.context.form) = .ok () :=
    Specimen.validate_eq_ok
  have houtcome := outcome_of_readBody hvalid readBody_period
  obtain ⟨-, -, ⟨read, hread, hdate, htoken⟩, hdenotes, -⟩ := one_instant houtcome
  obtain rfl : read = readPeriod := Except.ok.inj (hread.symm.trans readBody_period)
  obtain ⟨second, suffix, hjti, hsecond⟩ := htoken rfl
  have hbefore : second = -1 := (hdenotes _ _).mp hsecond
  subst hbefore
  have htext : String.ofList (backwards.instant {}).text = "1969-12-31T23:59:59Z" := by
    decide +kernel
  have hkept : isUnset (readPeriod.get? "period") = false := by decide
  refine ⟨_, suffix, houtcome, ?_, htext ▸ hdate rfl, hjti⟩
  exact get?_complete_of_kept _ _ _ (by decide) fun _ => hkept

end Renderer

end Issuance

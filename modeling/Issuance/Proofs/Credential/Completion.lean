import Issuance.Proofs.Credential.Outcome
import Issuance.Proofs.Json.Decoding

/-! # Completing the body of a credential

    Completing sets the issuer and fills in three members where they are left empty. Whatever text
    the values of a form make, its object is completed the same way: each of the four steps keeps
    the order of the names that are there, adds its own at the end if it is missing, and leaves all
    other values. -/

namespace Issuance

/-- The members that are filled in where they are left empty. -/
def filledInNames : List String := ["@context", "issuanceDate", "jti"]

/-- The members that every credential has, in the order in which missing ones are added. -/
def standardNames : List String := "issuer" :: filledInNames

/-- Names with one more at the end, unless it is there. -/
def withName (names : List String) (name : String) : List String :=
  if name ∈ names then names else names ++ [name]

/-- Adding names one after the other adds the missing ones in order. -/
theorem foldl_withName : ∀ {added : List String} (names : List String), added.Nodup →
    added.foldl withName names = names ++ added.filter (· ∉ names)
  | [], names, _ => by simp
  | name :: rest, names, h => by
    obtain ⟨hname, hrest⟩ := List.nodup_cons.mp h
    rw [List.foldl_cons, foldl_withName _ hrest, withName]
    split
    · next hmem => simp [hmem]
    · next hmem =>
      have hsame : rest.filter (· ∉ names ++ [name]) = rest.filter (· ∉ names) := by
        refine List.filter_congr fun other hother => ?_
        have hne : other ≠ name := fun heq => hname (heq ▸ hother)
        simp [hne]
      rw [hsame, List.filter_cons_of_pos (by simpa using hmem), List.append_assoc,
        List.singleton_append]

variable {body : Json.Object} {name key : String} {value : Json}

/-! ### One step -/

theorem isUnset_eq_false_iff {v : Option Json} :
    isUnset v = false ↔ ∃ w, v = some w ∧ w ≠ .null ∧ w ≠ .string "" := by
  cases v with
  | none => simp [isUnset]
  | some w =>
    cases w with
    | string s => simp [isUnset]
    | _ => simp [isUnset]

/-- A step adds its name at the end, unless it is there. -/
theorem names_fillIn (name : String) (value : Json) (body : Json.Object) :
    (fillIn name value body).names = withName body.names name := by
  rw [fillIn]
  split
  · exact Json.Object.names_insert name value body
  · next hset =>
    obtain ⟨v, hv, -⟩ := isUnset_eq_false_iff.mp (Bool.eq_false_iff.mpr hset)
    rw [withName, if_pos (Json.Object.mem_names_of_get? hv)]

theorem nodup_names_fillIn (h : body.names.Nodup) : (fillIn name value body).names.Nodup := by
  rw [fillIn]
  split
  · exact Json.Object.nodup_names_insert h name value
  · exact h

/-- A step writes its value only where the member is left empty. -/
theorem get?_fillIn (name key : String) (value : Json) (body : Json.Object) :
    (fillIn name value body).get? key =
      if name = key ∧ isUnset (body.get? key) = true then some value else body.get? key := by
  rw [fillIn]
  by_cases hset : isUnset (body.get? name) = true
  · rw [if_pos hset, Json.Object.get?_insert]
    by_cases hname : name = key
    · rw [if_pos hname, if_pos ⟨hname, hname ▸ hset⟩]
    · rw [if_neg hname, if_neg fun h => hname h.1]
  · rw [if_neg hset, if_neg]
    rintro ⟨rfl, hkey⟩
    exact hset hkey

theorem get?_fillIn_of_ne (h : name ≠ key) :
    (fillIn name value body).get? key = body.get? key := by
  rw [get?_fillIn, if_neg fun hboth => h hboth.1]

theorem get?_fillIn_of_set (h : isUnset (body.get? key) = false) :
    (fillIn name value body).get? key = body.get? key := by
  rw [get?_fillIn, if_neg fun hboth => by simp [h] at hboth]

/-- Once a member is set, no step unsets it. -/
theorem isUnset_fillIn_of_set (h : isUnset (body.get? key) = false) :
    isUnset ((fillIn name value body).get? key) = false := by
  rw [get?_fillIn_of_set h, h]

theorem isUnset_fillIn_self (h : isUnset (some value) = false) :
    isUnset ((fillIn name value body).get? name) = false := by
  rw [get?_fillIn]
  split
  · exact h
  · next hset => simpa using hset

/-! ### All steps -/

variable (did : String) (issued : Instant) (tokenSource : String)

theorem names_complete (body : Json.Object) :
    (complete did issued tokenSource body).names =
      body.names ++ standardNames.filter (· ∉ body.names) := by
  rw [← foldl_withName body.names (by decide : standardNames.Nodup), complete, names_fillIn,
    names_fillIn, names_fillIn, Json.Object.names_insert]
  rfl

theorem nodup_names_complete (h : body.names.Nodup) :
    (complete did issued tokenSource body).names.Nodup :=
  nodup_names_fillIn <| nodup_names_fillIn <| nodup_names_fillIn <|
    Json.Object.nodup_names_insert h _ _

theorem get?_complete_issuer (body : Json.Object) :
    (complete did issued tokenSource body).get? "issuer" = some (.string did) := by
  rw [complete, get?_fillIn_of_ne (by decide), get?_fillIn_of_ne (by decide),
    get?_fillIn_of_ne (by decide), Json.Object.get?_insert_self]

/-- What is read and set, or is no standard member, is kept. -/
theorem get?_complete_of_kept (hissuer : name ≠ "issuer")
    (h : name ∈ filledInNames → isUnset (body.get? name) = false) :
    (complete did issued tokenSource body).get? name = body.get? name := by
  have hinsert : (body.insert "issuer" (.string did)).get? name = body.get? name :=
    Json.Object.get?_insert_of_ne hissuer.symm _ body
  have hstep : ∀ {added : String} {value : Json} {o : Json.Object}, added ∈ filledInNames →
      o.get? name = body.get? name → (fillIn added value o).get? name = body.get? name := by
    intro added value o hadded ho
    by_cases hname : added = name
    · rw [get?_fillIn_of_set (by rw [ho]; exact h (hname ▸ hadded)), ho]
    · rw [get?_fillIn_of_ne hname, ho]
  exact hstep (by decide) <| hstep (by decide) <| hstep (by decide) hinsert

/-- Whether a token id is filled in is settled by what was read. -/
theorem complete_eq (body : Json.Object) :
    ∃ before : Json.Object, before.get? "jti" = body.get? "jti" ∧ ∀ tokenSource,
      complete did issued tokenSource body =
        fillIn "jti" (.string (tokenId issued tokenSource)) before := by
  refine ⟨_, ?_, fun _ => rfl⟩
  rw [get?_fillIn_of_ne (by decide), get?_fillIn_of_ne (by decide),
    Json.Object.get?_insert_of_ne (by decide)]

/-- A token id that is filled in is made from the instant and the id. -/
theorem get?_complete_jti (h : needsToken body = true) :
    (complete did issued tokenSource body).get? "jti" =
      some (.string (tokenId issued tokenSource)) := by
  obtain ⟨before, hjti, hcomplete⟩ := complete_eq did issued body
  rw [hcomplete, get?_fillIn, if_pos ⟨rfl, hjti ▸ h⟩]

/-- A date of issue that is filled in is the timestamp of the instant. -/
theorem get?_complete_issuanceDate (h : isUnset (body.get? "issuanceDate") = true) :
    (complete did issued tokenSource body).get? "issuanceDate" = some (Json.ofText issued.text) := by
  rw [complete, get?_fillIn_of_ne (by decide), get?_fillIn, if_pos]
  rwa [get?_fillIn_of_ne (by decide), Json.Object.get?_insert_of_ne (by decide),
    eq_self_iff_true, true_and]

/-- Where the token id is set, no id is asked for. -/
theorem complete_congr (h : needsToken body = false) (other : String) :
    complete did issued tokenSource body = complete did issued other body := by
  obtain ⟨before, hjti, hcomplete⟩ := complete_eq did issued body
  have hset : ¬isUnset (before.get? "jti") = true := by
    rw [hjti]
    exact Bool.eq_false_iff.mp h
  rw [hcomplete, hcomplete, fillIn, fillIn, if_neg hset, if_neg hset]

/-- The steps write values of one more level at most, so that what was read is still no deeper than
    allowed. -/
theorem fits_complete (h : Json.Fits Json.depthLimit (.object body)) :
    Json.Fits Json.depthLimit (.object (complete did issued tokenSource body)) := by
  have hfits : ∀ {v : Json}, v.Distinct → v.depth ≤ 1 →
      Json.Fits (Json.depthLimit - 1) v := fun hdistinct hdepth =>
    ⟨hdistinct, hdepth.trans (by decide)⟩
  have hstep : ∀ {name : String} {v : Json} {o : Json.Object}, v.Distinct → v.depth ≤ 1 →
      Json.Fits Json.depthLimit (.object o) →
      Json.Fits Json.depthLimit (.object (fillIn name v o)) := by
    intro name v o hdistinct hdepth ho
    rw [fillIn]
    split
    · exact Json.fits_insert (hfits hdistinct hdepth) ho
    · exact ho
  refine hstep trivial (Nat.zero_le 1) <| hstep trivial (Nat.zero_le 1) <|
    hstep ⟨trivial, trivial⟩ (le_refl 1) <| Json.fits_insert (hfits trivial (Nat.zero_le 1)) h

theorem isUnset_ofText {s : List Char} (h : s ≠ []) : isUnset (some (Json.ofText s)) = false := by
  simp [Json.ofText, isUnset, h]

/-- The members that are filled in are set. -/
theorem isUnset_complete (h : name ∈ filledInNames) :
    isUnset ((complete did issued tokenSource body).get? name) = false := by
  simp only [filledInNames, List.mem_cons, List.not_mem_nil, or_false] at h
  rcases h with rfl | rfl | rfl
  · exact isUnset_fillIn_of_set <| isUnset_fillIn_of_set <| isUnset_fillIn_self rfl
  · exact isUnset_fillIn_of_set <| isUnset_fillIn_self (isUnset_ofText issued.text_ne_nil)
  · refine isUnset_fillIn_self (isUnset_ofText ?_)
    exact List.append_ne_nil_of_right_ne_nil _ (List.cons_ne_nil _ _)

/-! ### Credentials -/

/-- Every credential that a rendering ends in has one issuer, the organization that renders, and has
    the other standard members set; it keeps all that was read besides the issuer, and its members
    stand in the order in which they were read, missing ones behind them. -/
theorem Renderer.credential_of_outcome (r : Renderer) (t : Template) (ctx : RenderContext)
    (u : Usage) (cred : Credential) (h : (r.render t ctx u).result.outcome = .ok cred) :
    ∃ read : Json.Object,
      readBody (t.filled r.escaping (r.builtins u) ctx) = .ok read ∧
      cred.body.names.Nodup ∧
      cred.body.names.count "issuer" = 1 ∧
      cred.body.get? "issuer" = some (.string ctx.org.did) ∧
      (∀ name ∈ filledInNames, ∃ v, cred.body.get? name = some v ∧ v ≠ .null ∧ v ≠ .string "") ∧
      (∀ name v, read.get? name = some v → name ≠ "issuer" →
        (name ∈ filledInNames → v ≠ .null ∧ v ≠ .string "") → cred.body.get? name = some v) ∧
      cred.body.names = read.names ++ standardNames.filter (· ∉ read.names) := by
  obtain ⟨read, hread, rfl⟩ := exists_readBody_of_outcome h
  have hnodup := nodup_names_complete ctx.org.did (r.clock u.clockReads) (r.ids (u.idsTaken + 1))
    (nodup_names_of_readBody hread)
  have hissuer := get?_complete_issuer ctx.org.did (r.clock u.clockReads) (r.ids (u.idsTaken + 1))
    read
  refine ⟨read, hread, hnodup, ?_, hissuer, ?_, ?_, names_complete _ _ _ _⟩
  · exact List.count_eq_one_of_mem hnodup (Json.Object.mem_names_of_get? hissuer)
  · exact fun name hname => isUnset_eq_false_iff.mp (isUnset_complete _ _ _ hname)
  · intro name v hv hne hset
    rw [← hv]
    refine get?_complete_of_kept _ _ _ hne fun hname => ?_
    rw [hv]
    exact isUnset_eq_false_iff.mpr ⟨v, rfl, hset hname⟩

/-- An issuer that a value brings in gives way to the organization. -/
theorem Renderer.credential_of_outcome_specimen :
    ∃ cred, ((Specimen.renderer .verbatim).render (Specimen.template (.text Specimen.text))
        Specimen.context {}).result.outcome = .ok cred ∧
      cred.body.names.count "issuer" = 1 ∧
      cred.body.get? "issuer" = some (.string "did:web:school") := by
  obtain ⟨body, hbody⟩ : ∃ body, readBody ((Specimen.template (.text Specimen.text)).filled
      .verbatim ((Specimen.renderer .verbatim).builtins {}) Specimen.context) = .ok body :=
    Specimen.exists_eq_ok (by decide +kernel)
  have houtcome := outcome_of_readBody (r := Specimen.renderer .verbatim) (u := {})
    Specimen.validate_eq_ok hbody
  obtain ⟨_, _, _, hcount, hissuer, _⟩ := Renderer.credential_of_outcome _ _ _ _ _ houtcome
  exact ⟨_, houtcome, hcount, hissuer⟩

end Issuance

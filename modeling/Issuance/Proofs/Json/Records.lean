import Issuance.Proofs.Json.Decoding

/-! # Records

    A record is read member by member into a draft, and then built from the draft. So what reading
    one member preserves holds of every draft that a record is built from, whichever way its members
    were written: by name in any order, among others that nobody asks for, or in order in an array.
    The other way round, members that fill a draft one after the other are read into it. -/

namespace Issuance.Json.Decoder

open Text (Stops)

variable {δ α β : Type} {shape : Shape δ α} {slots : List (Slot δ)} {depth : Nat} {I : δ → Prop}
  {draft draft' : δ} {s rest : List Char} {name : String} {get : δ → Option β}
  {set : δ → β → δ} {inner : Decoder β} {mayBeLeftOut : Bool}

/-! ### What reading members preserves -/

/-- Reading any of the members into a draft keeps what holds of the draft. -/
def Preserves (slots : List (Slot δ)) (depth : Nat) (I : δ → Prop) : Prop :=
  ∀ slot ∈ slots, ∀ draft s draft' rest, I draft → slot.read draft depth s = .ok (draft', rest) →
    I draft'

theorem Preserves.nil : Preserves [] depth I := fun _ h => absurd h List.not_mem_nil

theorem Preserves.cons (hset : ∀ draft s b rest, I draft → inner depth s = .ok (b, rest) →
    I (set draft b)) (hslots : Preserves slots depth I) :
    Preserves (.member name get set inner mayBeLeftOut :: slots) depth I := by
  refine List.forall_mem_cons.mpr ⟨fun draft s draft' _ hI hread => ?_, hslots⟩
  obtain ⟨⟨b, r⟩, hb, heq⟩ := map_eq_ok hread
  cases heq
  exact hset draft s b r hI hb

theorem fillByName_preserves (h : Preserves slots depth I) : ∀ {steps : Nat} {first : Bool}
    {draft draft' : δ} {s rest : List Char},
      fillByName slots depth steps first draft s = .ok (draft', rest) → I draft → I draft'
  | 0, _, _, _, _, _, hread, _ => by cases hread
  | steps + 1, first, draft, draft', s, rest, hread, hI => by
    rw [fillByName] at hread
    split at hread
    · cases hread
    · cases hread
      exact hI
    · split at hread
      · cases hread
      · split at hread
        · -- a member that nobody asks for
          split at hread
          · cases hread
          · exact fillByName_preserves h hread hI
        · next slot hslot =>
          split_ifs at hread
          split at hread
          · cases hread
          · next next' r hnext =>
            obtain ⟨r', -, hslotRead⟩ := bind_eq_ok hnext
            have hmem := List.mem_of_find?_eq_some hslot
            exact fillByName_preserves h hread (h slot hmem draft r' next' r hI hslotRead)

theorem fillInOrder_preserves {expected : String} : ∀ {slots : List (Slot δ)} {count : Nat}
    {draft draft' : δ} {s rest : List Char}, Preserves slots depth I →
      fillInOrder expected depth slots count draft s = .ok (draft', rest) → I draft → I draft'
  | [], _, _, _, _, _, _, hread, hI => by
    cases hread
    exact hI
  | slot :: slots, count, draft, draft', s, rest, h, hread, hI => by
    have hslots : Preserves slots depth I := fun t ht => h t (List.mem_cons_of_mem slot ht)
    rw [fillInOrder] at hread
    split at hread
    · cases hread
    · split_ifs at hread
      exact fillInOrder_preserves hslots hread hI
    · split at hread
      · cases hread
      · next hslot =>
        exact fillInOrder_preserves hslots hread
          (h slot List.mem_cons_self _ _ _ _ hI hslot)

/-- A record is built from a draft of which all holds that reading its members preserves. -/
theorem exists_draft_of_record {I : Nat → δ → Prop} {a : α} (hblank : ∀ depth, I depth shape.blank)
    (hslots : ∀ depth, Preserves shape.slots depth (I depth))
    (h : record shape depth s = .ok (a, rest)) :
    ∃ inside draft, depth = inside + 1 ∧ I inside draft ∧ shape.build draft = .ok a := by
  rw [record] at h
  split at h
  · cases h
  · split_ifs at h
    · split at h
      · cases h
      · next inside =>
        split at h
        · cases h
        · next draft r hfill =>
          have hI := fillByName_preserves (hslots inside) hfill (hblank inside)
          split at h
          · next b hbuild =>
            cases h
            exact ⟨inside, draft, rfl, hI, hbuild⟩
          · cases h
    · split at h
      · cases h
      · next inside =>
        dsimp only at h
        split at h
        · cases h
        · next draft r hfill =>
          have hI := fillInOrder_preserves (hslots inside) hfill (hblank inside)
          split at h
          · next b hbuild =>
            obtain ⟨r', -, heq⟩ := map_eq_ok h
            cases heq
            exact ⟨inside, draft, rfl, hI, hbuild⟩
          · cases h

/-! ### Members that fill a draft -/

/-- Members, no deeper than allowed, that are read into a draft one after the other, none of them
    twice. -/
inductive Fills (slots : List (Slot δ)) (depth : Nat) : δ → List (String × Json) → δ → Prop
  | nil (draft : δ) : Fills slots depth draft [] draft
  | cons {draft draft' draft'' : δ} {name : String} {v : Json} {ms : List (String × Json)}
      {slot : Slot δ} : slots.find? (fun t => t.name == name) = some slot →
      slot.isFilled draft = false → v.depth ≤ depth → (slot.read draft).Reads v draft' →
      Fills slots depth draft' ms draft'' → Fills slots depth draft ((name, v) :: ms) draft''

theorem Fills.member {draft draft' : δ} {v : Json} {b : β} {ms : List (String × Json)}
    (hfind : slots.find? (fun t => t.name == name) =
      some (.member name get set inner mayBeLeftOut))
    (hnew : get draft = none) (hdepth : v.depth ≤ depth) (hreads : inner.Reads v b)
    (hrest : Fills slots depth (set draft b) ms draft') :
    Fills slots depth draft ((name, v) :: ms) draft' :=
  .cons hfind (by simp [Slot.member, hnew]) hdepth (reads_map hreads) hrest

theorem Fills.memberDepth_le {ms : List (String × Json)} (h : Fills slots depth draft ms draft') :
    memberDepth ms ≤ depth := by
  induction h with
  | nil => exact Nat.zero_le depth
  | cons _ _ hdepth _ _ ih => exact max_le hdepth ih

theorem fillByName_eq_ok {inside : Nat} (t : List Char) {ms : List (String × Json)}
    (h : Fills slots depth draft ms draft') : ∀ {first : Bool} {s : List Char} {steps : Nat},
      Derives .Accepted (.members first ms) s → memberDepth ms ≤ inside → s.length ≤ steps →
        fillByName slots inside steps first draft (s ++ t) = .ok (draft', t) := by
  induction h with
  | nil draft =>
    rintro first s (_ | steps) hs _ hsteps
    · exact absurd (List.length_pos_iff.mpr hs.ne_nil) (by omega)
    · cases hs with
      | lastMember hw =>
        rw [List.append_assoc, List.singleton_append, fillByName, nextName_end hw]
  | @cons draft₁ draft₂ draft₃ name v ms slot hfind hnew _ hreads _ ih =>
    rintro first s (_ | steps) hs hdepth hsteps
    · exact absurd (List.length_pos_iff.mpr hs.ne_nil) (by omega)
    · obtain ⟨hvdepth, hmsdepth⟩ := max_le_iff.mp hdepth
      obtain ⟨r, chars, r', w, u, s', hnext, hstring, rfl, hcolon, hw, hv, hms, hlength⟩ :=
        hs.exists_member t
      have hvalue := hreads u w (s' ++ t) inside hv hw (hms.members_stops t) hvdepth
      have hrest : fillByName slots inside steps false draft₂ (s' ++ t) = .ok (draft₃, t) :=
        ih hms hmsdepth (by omega)
      rw [fillByName, hnext]
      simp only [hstring, hfind, hnew, hcolon, Except.bind, hvalue, hrest, Bool.false_eq_true,
        if_false]

/-- A record is kept if it is written as members that fill a draft of it. -/
theorem keeps_record {toJson : α → Json} {a : α} {ms : List (String × Json)}
    (hfills : Fills shape.slots depth shape.blank ms draft) (hbuild : shape.build draft = .ok a)
    (hjson : toJson a = .object ms) : (record shape).Keeps toJson (depth + 1) a := by
  constructor
  · rw [hjson, Json.depth]
    exact Nat.succ_le_succ hfills.memberDepth_le
  · rw [hjson]
    intro s w t depth h hw _ hdepth
    have hbrace : isSpace '{' = false := by decide
    cases h with
    | @object _ s hms =>
      cases depth with
      | zero => simp [Json.depth] at hdepth
      | succ inside =>
        have hsteps : s.length ≤ stepsFor (s ++ t) := by
          simp only [stepsFor, List.length_append]
          omega
        have hread := fillByName_eq_ok t hfills hms (by simpa [Json.depth] using hdepth) hsteps
        simp [record, skipSpace_append hw, skipSpace_cons hbrace, hread, hbuild]

end Issuance.Json.Decoder

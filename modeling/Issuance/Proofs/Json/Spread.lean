import Issuance.Proofs.Json.Compact

/-! # The spread form

    White space may stand before every item, every member and every closing bracket, so the lines of
    the spread form do not change what it is a text of. Like the compact form it writes its
    value. -/

namespace Issuance.Json

theorem blank_newline (depth : Nat) : Blank (newline depth) := by
  refine List.forall_mem_cons.mpr ⟨by decide, fun c hc => ?_⟩
  rw [List.eq_of_mem_replicate hc]
  decide

theorem blank_space : Blank [' '] := by
  refine List.forall_mem_singleton.mpr ?_
  decide

mutual

/-- The spread form of a value is one of its texts, however deep it stands. -/
theorem derives_spreadAt : ∀ {depth : Nat} {v : Json},
    (∀ n, .number n ∈ v.leaves → n.ReadsBack) → Derives .Canonical (.value v) (v.spreadAt depth)
  | _, .null, _ => .null
  | _, .bool b, _ => .bool b
  | _, .number n, h => .number (h n (by simp [leaves])).numeral
  | _, .string s, _ => by
    have hstring := Derives.string (Literal.escape s.toList)
    rwa [String.ofList_toList] at hstring
  | _, .array [], _ => .array (.lastItem blank_nil)
  | depth, .array (v :: rest), h => by
    rw [spreadAt, List.append_assoc]
    exact .array (derives_spreadItems (blank_newline depth) h)
  | _, .object [], _ => .object (.lastMember blank_nil)
  | depth, .object (m :: rest), h => by
    rw [spreadAt, List.append_assoc]
    exact .object (derives_spreadMembers (blank_newline depth) h)

theorem derives_spreadItems : ∀ {depth : Nat} {items : List Json} {w : List Char}, Blank w →
    (∀ n, .number n ∈ itemLeaves items → n.ReadsBack) →
      Derives .Canonical (.items true items) (spreadItems depth items ++ (w ++ [']']))
  | _, [], _, hw, _ => .lastItem hw
  | depth, [v], w, hw, h => by
    have hv : Derives .Canonical (.value v) (v.spreadAt depth) :=
      derives_spreadAt fun n hn => h n (by simp [itemLeaves, hn])
    rw [spreadItems, List.append_assoc]
    exact .item (.first (blank_newline depth)) hv (.lastItem hw)
  | depth, v :: v' :: rest, w, hw, h => by
    have hv : Derives .Canonical (.value v) (v.spreadAt depth) :=
      derives_spreadAt fun n hn => h n (by simp [itemLeaves, hn])
    have hrest : Derives .Canonical (.items true (v' :: rest))
        (spreadItems depth (v' :: rest) ++ (w ++ [']'])) :=
      derives_spreadItems hw fun n hn => h n (by rw [itemLeaves]; exact List.mem_append_right _ hn)
    rw [spreadItems, List.append_assoc, List.append_assoc, List.cons_append]
    exact .item (.first (blank_newline depth)) hv hrest.comma_items

theorem derives_spreadMembers : ∀ {depth : Nat} {members : List (String × Json)} {w : List Char},
    Blank w → (∀ n, .number n ∈ memberLeaves members → n.ReadsBack) →
      Derives .Canonical (.members true members) (spreadMembers depth members ++ (w ++ ['}']))
  | _, [], _, hw, _ => .lastMember hw
  | depth, [(name, v)], w, hw, h => by
    have hv : Derives .Canonical (.value v) (v.spreadAt depth) :=
      derives_spreadAt fun n hn => h n (by simp [memberLeaves, hn])
    have hmember := Derives.member (.first (blank_newline depth)) (Literal.escape name.toList)
      blank_nil blank_space hv (.lastMember hw)
    simpa [spreadMembers, quote] using hmember
  | depth, (name, v) :: m :: rest, w, hw, h => by
    have hv : Derives .Canonical (.value v) (v.spreadAt depth) :=
      derives_spreadAt fun n hn => h n (by simp [memberLeaves, hn])
    have hrest : Derives .Canonical (.members true (m :: rest))
        (spreadMembers depth (m :: rest) ++ (w ++ ['}'])) :=
      derives_spreadMembers hw fun n hn => h n (by
        obtain ⟨name', v'⟩ := m
        rw [memberLeaves]
        exact List.mem_cons_of_mem _ (List.mem_append_right _ hn))
    have hmember := Derives.member (.first (blank_newline depth)) (Literal.escape name.toList)
      blank_nil blank_space hv hrest.comma_members
    simpa [spreadMembers, quote] using hmember

end

/-- A value is written by its spread form, as far as its numbers are read back. -/
theorem writes_spread {v : Json} (h : ∀ n, .number n ∈ v.leaves → n.ReadsBack) :
    Writes .Accepted v v.spread :=
  ⟨[], _, [], blank_nil, (derives_spreadAt h).mono fun _ _ => accepted_of_canonical, blank_nil,
    by rw [List.nil_append, List.append_nil, spread]⟩

end Issuance.Json

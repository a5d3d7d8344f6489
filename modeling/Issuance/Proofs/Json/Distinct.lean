import Issuance.Proofs.Json.Shape

/-! # Values that repeat no name

    An object is written member by member, and a name that comes again takes the place of the one
    before. So no object that is written that way repeats a name, and neither does any value that is
    read from a text. -/

namespace Issuance.Json

variable {key name : String} {v : Json}

theorem names_mapMembers (onName onText : String → String) (members : List (String × Json)) :
    Object.names (mapMembers onName onText members) = (Object.names members).map onName := by
  induction members with
  | nil => rfl
  | cons m rest ih => exact congrArg (onName m.1 :: ·) ih

/-- What an object without repeats holds is without repeats. -/
theorem distinct_of_get? : ∀ {members : Object}, DistinctMembers members →
    Object.get? key members = some v → v.Distinct
  | (n, w) :: rest, h, hget => by
    rw [Object.get?] at hget
    split_ifs at hget
    · cases hget
      exact h.1
    · exact distinct_of_get? h.2 hget

/-- So is what a value without repeats has for a member. -/
theorem Distinct.member? (h : v.Distinct) {w : Json} (hget : v.member? key = some w) :
    w.Distinct := by
  cases v with
  | object members => exact distinct_of_get? h.2 hget
  | _ => cases hget

theorem distinct_of_mem {members : List (String × Json)} (h : DistinctMembers members) :
    ∀ m ∈ members, m.2.Distinct := by
  induction members with
  | nil => exact fun _ hm => absurd hm List.not_mem_nil
  | cons m rest ih => exact List.forall_mem_cons.mpr ⟨h.1, ih h.2⟩

theorem distinctMembers_insert (hv : v.Distinct) : ∀ {o : Object}, DistinctMembers o →
    DistinctMembers (o.insert name v)
  | [], _ => ⟨hv, trivial⟩
  | (n, w) :: rest, h => by
    rw [Object.insert]
    split_ifs
    · exact ⟨hv, h.2⟩
    · exact ⟨h.1, distinctMembers_insert hv h.2⟩

theorem distinctMembers_overlay : ∀ {upper : List (String × Json)} {base : Object},
    DistinctMembers base → DistinctMembers upper → DistinctMembers (Object.overlay base upper)
  | [], _, hbase, _ => hbase
  | (n, v) :: rest, base, hbase, hupper => by
    change DistinctMembers (Object.overlay (base.insert n v) rest)
    exact distinctMembers_overlay (distinctMembers_insert hupper.1 hbase) hupper.2

/-- Members written one after the other make an object without repeats. -/
theorem distinct_ofMembers {members : List (String × Json)} (h : DistinctMembers members) :
    (Json.object (Object.ofMembers members)).Distinct :=
  ⟨Object.nodup_names_ofMembers members, distinctMembers_overlay trivial h⟩

mutual

/-- Rewriting the strings of a value repeats no name. -/
theorem distinct_mapTexts (onText : String → String) : ∀ {v : Json}, v.Distinct →
    (v.mapTexts id onText).Distinct
  | .null, _ => trivial
  | .bool _, _ => trivial
  | .number _, _ => trivial
  | .string _, _ => trivial
  | .array _, h => distinctItems_mapItems onText h
  | .object members, h => by
    refine ⟨?_, distinctMembers_mapMembers onText h.2⟩
    rw [names_mapMembers, List.map_id]
    exact h.1

theorem distinctItems_mapItems (onText : String → String) : ∀ {items : List Json},
    DistinctItems items → DistinctItems (mapItems id onText items)
  | [], _ => trivial
  | _ :: _, h => ⟨distinct_mapTexts onText h.1, distinctItems_mapItems onText h.2⟩

theorem distinctMembers_mapMembers (onText : String → String) : ∀ {members : List (String × Json)},
    DistinctMembers members → DistinctMembers (mapMembers id onText members)
  | [], _ => trivial
  | (_, _) :: _, h => ⟨distinct_mapTexts onText h.1, distinctMembers_mapMembers onText h.2⟩

end

mutual

/-- A merged value is without repeats. -/
theorem distinct_merged : ∀ v : Json, v.merged.Distinct
  | .null => trivial
  | .bool _ => trivial
  | .number _ => trivial
  | .string _ => trivial
  | .array items => distinctItems_mergedItems items
  | .object members => distinct_ofMembers (distinctMembers_mergedMembers members)

theorem distinctItems_mergedItems : ∀ items : List Json, DistinctItems (mergedItems items)
  | [] => trivial
  | v :: rest => ⟨distinct_merged v, distinctItems_mergedItems rest⟩

theorem distinctMembers_mergedMembers : ∀ members : List (String × Json),
    DistinctMembers (mergedMembers members)
  | [] => trivial
  | (_, v) :: rest => ⟨distinct_merged v, distinctMembers_mergedMembers rest⟩

end

end Issuance.Json

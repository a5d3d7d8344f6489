import Issuance.Proofs.Json.Members
import Issuance.Proofs.Text.Given

/-! # Members written one after the other

    Of the members written under a name the first settles where the name stands, the last what value
    it has. Names and values that were there before stay where nothing is written over them. -/

namespace Issuance.Json.Object

open Text (firstsBy under?)

/-- Writing members one after the other: each name stands where it came first. -/
theorem names_overlay : ∀ (upper : List (String × Json)) (base : Object),
    (overlay base upper).names =
      base.names ++ (firstsBy id (upper.map Prod.fst)).filter fun n => n ∉ base.names
  | [], base => by simp [overlay, firstsBy]
  | m :: rest, base => by
    change (overlay (base.insert m.1 m.2) rest).names = _
    rw [names_overlay rest, names_insert, List.map_cons, firstsBy, List.filter_cons]
    by_cases hm : m.1 ∈ base.names
    · rw [if_pos hm, if_neg (by simpa using hm), List.filter_filter]
      refine congrArg _ (List.filter_congr fun n _ => ?_)
      by_cases hn : n = m.1 <;> simp [hn, hm]
    · rw [if_neg hm, if_pos (by simpa using hm), List.filter_filter, List.append_assoc,
        List.singleton_append]
      refine congrArg _ (congrArg _ (List.filter_congr fun n _ => ?_))
      by_cases hn : n = m.1 <;> simp [hn, hm]

theorem names_ofMembers (members : List (String × Json)) :
    (ofMembers members).names = firstsBy id (members.map Prod.fst) := by
  rw [ofMembers, names_overlay, names_nil, List.nil_append]
  exact List.filter_eq_self.mpr fun _ _ => by simp

/-- Writing members one after the other: each name has the value that came last. -/
theorem get?_overlay_eq_getLast? (key : String) : ∀ (upper : List (String × Json)) (base : Object),
    (overlay base upper).get? key =
      ((upper.filterMap (under? key)).getLast?).or (base.get? key)
  | [], _ => rfl
  | m :: rest, base => by
    change (overlay (base.insert m.1 m.2) rest).get? key = _
    rw [get?_overlay_eq_getLast? key rest, get?_insert]
    by_cases hm : m.1 = key
    · have hunder : under? key m = some m.2 := if_pos hm
      rw [if_pos hm, List.filterMap_cons_some hunder, List.getLast?_cons]
      cases (rest.filterMap (under? key)).getLast? <;> rfl
    · have hunder : under? key m = none := if_neg hm
      rw [if_neg hm, List.filterMap_cons_none hunder]

theorem get?_ofMembers (key : String) (members : List (String × Json)) :
    (ofMembers members).get? key = (members.filterMap (under? key)).getLast? := by
  rw [ofMembers, get?_overlay_eq_getLast?]
  exact Option.or_none

end Issuance.Json.Object

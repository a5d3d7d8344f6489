import Issuance.Json.Basic
import Mathlib.Data.List.Basic
import Mathlib.Data.List.Nodup

/-! # Members of an object

    An object is an ordered map: writing a member changes the value under its name and no other, and
    leaves the names as they stand or adds a new one at the end. So whatever comes of writing
    members into an object without repeated names is one without repeated names. -/

namespace Issuance.Json.Object

/-! ### Names -/

@[simp]
theorem names_nil : names [] = [] := rfl

@[simp]
theorem names_cons (m : String × Json) (o : Object) : names (m :: o) = m.1 :: names o := rfl

theorem names_insert (name : String) (value : Json) : ∀ o : Object,
    (o.insert name value).names = if name ∈ o.names then o.names else o.names ++ [name]
  | [] => by simp [insert]
  | (n, v) :: rest => by
    by_cases hn : n = name
    · simp [insert, hn]
    · have hne : ¬name = n := fun h => hn h.symm
      simp only [insert, if_neg hn, names_cons, names_insert name value rest, List.mem_cons, hne,
        false_or]
      split <;> simp

theorem nodup_names_insert {o : Object} (h : o.names.Nodup) (name : String) (value : Json) :
    (o.insert name value).names.Nodup := by
  rw [names_insert]
  split
  · exact h
  · next hname =>
    rw [← List.concat_eq_append]
    exact h.concat hname

/-- Writing members keeps names distinct. -/
theorem nodup_names_overlay : ∀ (upper : List (String × Json)) {base : Object}, base.names.Nodup →
    (overlay base upper).names.Nodup
  | [], _, h => h
  | m :: rest, _, h => nodup_names_overlay rest (nodup_names_insert h m.1 m.2)

/-- Writing members adds no names but theirs. -/
theorem mem_names_overlay {name : String} : ∀ {upper : List (String × Json)} {base : Object},
    name ∈ (overlay base upper).names → name ∈ base.names ∨ name ∈ upper.map Prod.fst
  | [], _, h => .inl h
  | m :: rest, base, h => by
    have hrest : name ∈ (overlay (base.insert m.1 m.2) rest).names := h
    rcases mem_names_overlay hrest with h | h
    · rw [names_insert] at h
      split_ifs at h
      · exact .inl h
      · rcases List.mem_append.mp h with h | h
        · exact .inl h
        · exact .inr (List.mem_singleton.mp h ▸ List.mem_cons_self)
    · exact .inr (List.mem_cons_of_mem _ h)

/-- The object that comes of writing members has distinct names. -/
theorem nodup_names_ofMembers (members : List (String × Json)) : (ofMembers members).names.Nodup :=
  nodup_names_overlay members List.nodup_nil

/-! ### Values -/

theorem get?_insert (name key : String) (value : Json) : ∀ o : Object,
    (o.insert name value).get? key = if name = key then some value else o.get? key
  | [] => rfl
  | (n, v) :: rest => by
    by_cases hn : n = name
    · subst hn
      by_cases hk : n = key <;> simp [insert, get?, hk]
    · rw [insert, if_neg hn, get?, get?_insert name key value rest, get?]
      by_cases hk : n = key
      · have hne : ¬name = key := fun h => hn (hk.trans h.symm)
        simp [hk, hne]
      · simp [hk]

theorem get?_insert_self (name : String) (value : Json) (o : Object) :
    (o.insert name value).get? name = some value := by
  simp [get?_insert]

theorem get?_insert_of_ne {name key : String} (h : name ≠ key) (value : Json) (o : Object) :
    (o.insert name value).get? key = o.get? key := by
  simp [get?_insert, h]

/-- Writing a member under a name makes two objects agree there. -/
theorem get?_insert_congr {name key : String} {value : Json} {o₁ o₂ : Object}
    (h : key ≠ name → o₁.get? key = o₂.get? key) :
    (o₁.insert name value).get? key = (o₂.insert name value).get? key := by
  rw [get?_insert, get?_insert]
  split
  · rfl
  · next hne => exact h fun heq => hne heq.symm

theorem get?_eq_none_iff {key : String} : ∀ {o : Object}, o.get? key = none ↔ key ∉ o.names
  | [] => by simp [get?]
  | (n, v) :: rest => by
    by_cases h : n = key
    · simp [get?, h]
    · have hne : ¬key = n := fun h' => h h'.symm
      simp [get?, h, hne, get?_eq_none_iff (o := rest)]

theorem mem_names_of_get? {key : String} {o : Object} {v : Json} (h : o.get? key = some v) :
    key ∈ o.names := by
  by_contra hkey
  simp [get?_eq_none_iff.mpr hkey] at h

theorem get?_of_mem {key : String} {v : Json} : ∀ {o : Object}, o.names.Nodup → (key, v) ∈ o →
    o.get? key = some v
  | (n, w) :: rest, hnodup, hmem => by
    obtain ⟨hn, hrest⟩ := List.nodup_cons.mp hnodup
    rcases List.mem_cons.mp hmem with h | h
    · cases h
      rw [get?, if_pos rfl]
    · have hkey : key ∈ names rest := List.mem_map.mpr ⟨(key, v), h, rfl⟩
      have hne : n ≠ key := fun heq => hn (heq ▸ hkey)
      rw [get?, if_neg hne, get?_of_mem hrest h]

/-- Writing members over an object: their values come first, the others stay. -/
theorem get?_overlay (key : String) : ∀ {upper : List (String × Json)} (base : Object),
    (names upper).Nodup → (overlay base upper).get? key = (get? key upper).or (base.get? key)
  | [], _, _ => rfl
  | (n, v) :: rest, base, h => by
    rw [names_cons, List.nodup_cons] at h
    have hrest := get?_overlay key (insert n v base) h.2
    rw [get?_insert] at hrest
    change (overlay (insert n v base) rest).get? key = _
    rw [hrest, get?]
    by_cases hk : n = key
    · have hnone : get? key rest = none := get?_eq_none_iff.mpr (hk ▸ h.1)
      simp [hk, hnone]
    · simp [hk]

/-- Writing the value that is there changes nothing. -/
theorem insert_eq_self {name : String} {v : Json} : ∀ {o : Object}, o.get? name = some v →
    o.insert name v = o
  | (n, w) :: rest, h => by
    rw [get?] at h
    rw [insert]
    split_ifs at h ⊢
    · cases h
      rfl
    · rw [insert_eq_self h]

theorem insert_of_not_mem {name : String} {value : Json} : ∀ {o : Object}, name ∉ o.names →
    o.insert name value = o ++ [(name, value)]
  | [], _ => rfl
  | (n, v) :: rest, h => by
    rw [names_cons, List.mem_cons, not_or] at h
    rw [insert, if_neg fun he => h.1 he.symm, insert_of_not_mem h.2, List.cons_append]

theorem overlay_eq_append : ∀ {upper : List (String × Json)} {base : Object},
    (names (base ++ upper)).Nodup → overlay base upper = base ++ upper
  | [], base, _ => (List.append_nil base).symm
  | m :: rest, base, h => by
    have hnew : m.1 ∉ base.names := by
      intro hmem
      rw [names, List.map_append] at h
      exact List.disjoint_of_nodup_append h hmem (by simp)
    change overlay (base.insert m.1 m.2) rest = _
    rw [insert_of_not_mem hnew, overlay_eq_append (by simpa using h), List.append_assoc]
    rfl

/-- Members with distinct names are the object they make. -/
theorem ofMembers_eq_self {members : List (String × Json)} (h : (names members).Nodup) :
    ofMembers members = members :=
  overlay_eq_append h

end Issuance.Json.Object

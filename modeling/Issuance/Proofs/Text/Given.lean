import Mathlib.Data.List.Basic
import Mathlib.Data.List.Nodup

/-! # What lines give

    A format says which line gives what. Of several lines that give the same thing the last one may
    count, or the first, or all of them in order. Here these three ways to read lines are said of
    the relation between a line and what it gives; where a function reads single lines, they are the
    last, the first and all of its answers. -/

namespace Issuance.Text

variable {α β : Type} [DecidableEq β]

/-- What the last line that gives anything gives. -/
def LastGiven (gives : List Char → α → Prop) (ls : List (List Char)) (a : α) : Prop :=
  ∃ before line after, ls = before ++ line :: after ∧ gives line a ∧ ∀ l ∈ after, ∀ b, ¬gives l b

/-- What lines give, in their order. -/
inductive AllGiven (gives : List Char → α → Prop) : List (List Char) → List α → Prop
  | nil : AllGiven gives [] []
  | skip {line : List Char} {ls : List (List Char)} {as : List α} :
      (∀ a, ¬gives line a) → AllGiven gives ls as → AllGiven gives (line :: ls) as
  | give {line : List Char} {a : α} {ls : List (List Char)} {as : List α} :
      gives line a → AllGiven gives ls as → AllGiven gives (line :: ls) (a :: as)

/-- The first of all that share a key, in their order. -/
def firstsBy (key : α → β) : List α → List α
  | [] => []
  | a :: rest => a :: (firstsBy key rest).filter fun b => key b ≠ key a

/-- The second of a pair whose first is the name asked for. -/
def under? (name : String) (m : String × α) : Option α := if m.1 = name then some m.2 else none

variable {gives : List Char → α → Prop} {read : List Char → Option α} {ls : List (List Char)}
  {key : α → β}

/-! ### Reading line by line -/

theorem filterMap_eq_nil_iff_of_reads (h : ∀ l ∈ ls, ∀ a, read l = some a ↔ gives l a) :
    ls.filterMap read = [] ↔ ∀ l ∈ ls, ∀ a, ¬gives l a := by
  rw [List.filterMap_eq_nil_iff]
  refine forall₂_congr fun l hl => ?_
  rw [Option.eq_none_iff_forall_ne_some]
  exact forall_congr' fun a => not_congr (h l hl a)

theorem allGiven_filterMap : ∀ {ls : List (List Char)},
    (∀ l ∈ ls, ∀ a, read l = some a ↔ gives l a) → AllGiven gives ls (ls.filterMap read)
  | [], _ => .nil
  | l :: rest, h => by
    have hrest : AllGiven gives rest (rest.filterMap read) :=
      allGiven_filterMap fun m hm => h m (List.mem_cons_of_mem l hm)
    have hl := h l List.mem_cons_self
    cases hread : read l with
    | none =>
      rw [List.filterMap_cons_none hread]
      refine .skip (fun a ha => ?_) hrest
      rw [(hl a).mpr ha] at hread
      cases hread
    | some a =>
      rw [List.filterMap_cons_some hread]
      exact .give ((hl a).mp hread) hrest

theorem lastGiven_iff (h : ∀ l ∈ ls, ∀ a, read l = some a ↔ gives l a) {a : α} :
    LastGiven gives ls a ↔ (ls.filterMap read).getLast? = some a := by
  constructor
  · rintro ⟨before, line, after, rfl, hline, hafter⟩
    have hread := (h line (by simp) a).mpr hline
    have hnil : after.filterMap read = [] :=
      (filterMap_eq_nil_iff_of_reads fun l hl => h l (by simp [hl])).mpr hafter
    rw [List.filterMap_append, List.filterMap_cons_some hread, hnil, List.getLast?_concat]
  · intro hlast
    obtain ⟨front, hfront⟩ := List.getLast?_eq_some_iff.mp hlast
    obtain ⟨before, rest, rfl, -, hrest⟩ := List.filterMap_eq_append_iff.mp hfront
    obtain ⟨skipped, line, after, rfl, hskipped, hline, hafter⟩ :=
      List.filterMap_eq_cons_iff.mp hrest
    refine ⟨before ++ skipped, line, after, by simp, (h line (by simp) a).mp hline, ?_⟩
    exact (filterMap_eq_nil_iff_of_reads fun l hl => h l (by simp [hl])).mp hafter

/-- What lines give in their order is settled by the lines. -/
theorem AllGiven.eq_filterMap {as : List α} (hall : AllGiven gives ls as)
    (h : ∀ l ∈ ls, ∀ a, read l = some a ↔ gives l a) : as = ls.filterMap read := by
  induction hall with
  | nil => rfl
  | @skip line ls as hnone _ ih =>
    have hread : read line = none := Option.eq_none_iff_forall_ne_some.mpr fun a ha =>
      hnone a ((h line List.mem_cons_self a).mp ha)
    rw [List.filterMap_cons_none hread, ih fun l hl => h l (List.mem_cons_of_mem line hl)]
  | @give line a ls as hgives _ ih =>
    have hread : read line = some a := (h line List.mem_cons_self a).mpr hgives
    rw [List.filterMap_cons_some hread, ← ih fun l hl => h l (List.mem_cons_of_mem line hl)]

/-- If a line gives something, one of them is the last. -/
theorem exists_getLast?_iff (h : ∀ l ∈ ls, ∀ a, read l = some a ↔ gives l a) :
    (∃ a, (ls.filterMap read).getLast? = some a) ↔ ∃ l ∈ ls, ∃ a, gives l a := by
  rw [← Option.isSome_iff_exists, ← not_iff_not]
  simpa [List.getLast?_eq_none_iff] using filterMap_eq_nil_iff_of_reads h

theorem getLast?_eq_none_iff_of_reads (h : ∀ l ∈ ls, ∀ a, read l = some a ↔ gives l a) :
    (ls.filterMap read).getLast? = none ↔ ∀ l ∈ ls, ∀ a, ¬gives l a := by
  rw [List.getLast?_eq_none_iff, filterMap_eq_nil_iff_of_reads h]

/-! ### Where what is given comes from -/

theorem LastGiven.exists_mem {a : α} (h : LastGiven gives ls a) : ∃ l ∈ ls, gives l a := by
  obtain ⟨before, line, after, rfl, hline, -⟩ := h
  exact ⟨line, by simp, hline⟩

theorem AllGiven.exists_mem {as : List α} (h : AllGiven gives ls as) :
    ∀ a ∈ as, ∃ l ∈ ls, gives l a := by
  induction h with
  | nil => intro a ha; cases ha
  | skip _ _ ih =>
    intro a ha
    obtain ⟨l, hl, hgives⟩ := ih a ha
    exact ⟨l, List.mem_cons_of_mem _ hl, hgives⟩
  | give hline _ ih =>
    intro a ha
    rcases List.mem_cons.mp ha with rfl | ha
    · exact ⟨_, List.mem_cons_self, hline⟩
    · obtain ⟨l, hl, hgives⟩ := ih a ha
      exact ⟨l, List.mem_cons_of_mem _ hl, hgives⟩

/-! ### The first under each key -/

theorem mem_of_mem_firstsBy {a : α} : ∀ {as : List α}, a ∈ firstsBy key as → a ∈ as
  | [], h => h
  | b :: rest, h => by
    rcases List.mem_cons.mp h with rfl | h
    · exact List.mem_cons_self
    · exact List.mem_cons_of_mem b (mem_of_mem_firstsBy (List.mem_filter.mp h).1)

theorem firstsBy_eq_nil_iff {as : List α} : firstsBy key as = [] ↔ as = [] := by
  cases as with
  | nil => exact iff_of_true rfl rfl
  | cons a rest => exact iff_of_false (List.cons_ne_nil _ _) (List.cons_ne_nil _ _)

/-- No key is repeated. -/
theorem nodup_map_firstsBy : ∀ as : List α, ((firstsBy key as).map key).Nodup
  | [] => List.nodup_nil
  | a :: rest => by
    rw [firstsBy, List.map_cons, List.nodup_cons]
    constructor
    · intro hmem
      obtain ⟨b, hb, hkey⟩ := List.mem_map.mp hmem
      simpa [hkey] using (List.mem_filter.mp hb).2
    · exact (nodup_map_firstsBy rest).sublist (List.filter_sublist.map key)

/-- Where no key is repeated, all are first. -/
theorem firstsBy_eq_self : ∀ {as : List α}, (as.map key).Nodup → firstsBy key as = as
  | [], _ => rfl
  | a :: rest, h => by
    rw [List.map_cons, List.nodup_cons] at h
    rw [firstsBy, firstsBy_eq_self h.2, List.filter_eq_self.mpr]
    intro b hb
    have hne : key b ≠ key a := fun heq => h.1 (heq ▸ List.mem_map_of_mem hb)
    simpa using hne

end Issuance.Text

import Issuance.Text.Split
import Mathlib.Data.List.Basic

/-! # Where texts are cut

    A text is cut at a separator when the separator stands in it, and before the first one there is
    none. So the pieces of a text are found one after the other, each up to the next separator. -/

namespace Issuance.Text

variable {sep : Char} {s t p : List Char} {ps : List (List Char)}

theorem cut_append_cons (t : List Char) : ∀ {s : List Char}, sep ∉ s →
    cut sep (s ++ sep :: t) = some (s, t)
  | [], _ => by rw [List.nil_append, cut, if_pos rfl]
  | c :: rest, h => by
    rw [List.mem_cons, not_or] at h
    rw [List.cons_append, cut, if_neg (Ne.symm h.1), cut_append_cons t h.2]
    rfl

theorem cut_eq_none_iff : cut sep s = none ↔ sep ∉ s := by
  induction s with
  | nil => simp [cut]
  | cons c rest ih =>
    rw [cut, List.mem_cons, not_or, ← ih]
    by_cases hc : c = sep
    · simp [hc]
    · simp [hc, Ne.symm hc]

/-- A text is cut into what stands before and behind the first separator. -/
theorem cut_eq_some_iff : cut sep s = some (p, t) ↔ s = p ++ sep :: t ∧ sep ∉ p := by
  constructor
  · intro h
    have hmem : sep ∈ s := by
      by_contra hmem
      rw [cut_eq_none_iff.mpr hmem] at h
      cases h
    obtain ⟨q, u, rfl, hq⟩ := List.eq_append_cons_of_mem hmem
    rw [cut_append_cons u hq] at h
    cases h
    exact ⟨rfl, hq⟩
  · rintro ⟨rfl, hp⟩
    exact cut_append_cons t hp

theorem splitOn_of_not_mem : ∀ {s : List Char}, sep ∉ s → splitOn sep s = [s]
  | [], _ => rfl
  | c :: rest, h => by
    rw [List.mem_cons, not_or] at h
    rw [splitOn, if_neg (Ne.symm h.1), splitOn_of_not_mem h.2]

theorem splitOn_append_cons (t : List Char) : ∀ {s : List Char}, sep ∉ s →
    splitOn sep (s ++ sep :: t) = s :: splitOn sep t
  | [], _ => by rw [List.nil_append, splitOn, if_pos rfl]
  | c :: rest, h => by
    rw [List.mem_cons, not_or] at h
    rw [List.cons_append, splitOn, if_neg (Ne.symm h.1), splitOn_append_cons t h.2]

/-- The first piece ends at the first separator, or there is none. -/
theorem splitOn_eq_cons_iff : splitOn sep s = p :: ps ↔
    sep ∉ p ∧ ((s = p ∧ ps = []) ∨ ∃ t, s = p ++ sep :: t ∧ splitOn sep t = ps) := by
  constructor
  · intro h
    by_cases hmem : sep ∈ s
    · obtain ⟨q, t, rfl, hq⟩ := List.eq_append_cons_of_mem hmem
      rw [splitOn_append_cons t hq] at h
      cases h
      exact ⟨hq, .inr ⟨t, rfl, rfl⟩⟩
    · rw [splitOn_of_not_mem hmem] at h
      cases h
      exact ⟨hmem, .inl ⟨rfl, rfl⟩⟩
  · rintro ⟨hp, ⟨rfl, rfl⟩ | ⟨t, rfl, rfl⟩⟩
    · exact splitOn_of_not_mem hp
    · exact splitOn_append_cons t hp

theorem splitOn_ne_nil (sep : Char) (s : List Char) : splitOn sep s ≠ [] := by
  cases s with
  | nil => simp [splitOn]
  | cons c rest =>
    rw [splitOn]
    split
    · simp
    · split <;> simp

theorem join_cons_cons (sep : Char) (p q : List Char) (ps : List (List Char)) :
    join [sep] (p :: q :: ps) = p ++ sep :: join [sep] (q :: ps) := by
  simp [join, List.intercalate]

theorem join_singleton (sep : Char) (p : List Char) : join [sep] [p] = p := by
  simp [join, List.intercalate]

/-- Pieces without separators are found again where they are joined. -/
theorem splitOn_join : ∀ {ps : List (List Char)}, ps ≠ [] → (∀ p ∈ ps, sep ∉ p) →
    splitOn sep (join [sep] ps) = ps
  | [], h, _ => absurd rfl h
  | [p], _, h => by
    rw [join_singleton, splitOn_of_not_mem (h p List.mem_cons_self)]
  | p :: q :: ps, _, h => by
    rw [join_cons_cons, splitOn_append_cons _ (h p List.mem_cons_self),
      splitOn_join (List.cons_ne_nil q ps) fun r hr => h r (List.mem_cons_of_mem p hr)]

/-- Joined texts are written with their own characters and the separator. -/
theorem mem_join {c : Char} : ∀ {ps : List (List Char)}, c ∈ join [sep] ps →
    c = sep ∨ ∃ p ∈ ps, c ∈ p
  | [], h => by cases h
  | [p], h => .inr ⟨p, List.mem_cons_self, join_singleton sep p ▸ h⟩
  | p :: q :: ps, h => by
    rw [join_cons_cons, List.mem_append, List.mem_cons] at h
    rcases h with h | rfl | h
    · exact .inr ⟨p, List.mem_cons_self, h⟩
    · exact .inl rfl
    · refine (mem_join h).imp_right ?_
      rintro ⟨r, hr, hc⟩
      exact ⟨r, List.mem_cons_of_mem p hr, hc⟩

@[simp]
theorem after?_eq_some_iff {mark s rest : List Char} :
    after? mark s = some rest ↔ mark ++ rest = s :=
  List.isPrefixOf?_eq_some_iff_append_eq

theorem after?_append (mark s : List Char) : after? mark (mark ++ s) = some s :=
  after?_eq_some_iff.mpr rfl

theorem after?_eq_none_iff {mark s : List Char} : after? mark s = none ↔ ¬mark <+: s := by
  simp only [Option.eq_none_iff_forall_ne_some, ne_eq, after?_eq_some_iff]
  rw [List.IsPrefix, not_exists]

/-- What a text starts with, if it holds no separator, stands before the first one. -/
theorem prefix_of_prefix_append_cons {t : List Char} : ∀ {mark s : List Char}, sep ∉ mark →
    mark <+: s ++ sep :: t → mark <+: s
  | [], s, _, _ => List.nil_prefix
  | c :: mark, [], hmark, h => by
    obtain ⟨rfl, -⟩ := List.cons_prefix_cons.mp h
    exact absurd List.mem_cons_self hmark
  | c :: mark, d :: s, hmark, h => by
    rw [List.mem_cons, not_or] at hmark
    obtain ⟨rfl, hrest⟩ := List.cons_prefix_cons.mp h
    exact List.cons_prefix_cons.mpr ⟨rfl, prefix_of_prefix_append_cons hmark.2 hrest⟩

end Issuance.Text

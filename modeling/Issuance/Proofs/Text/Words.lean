import Issuance.Proofs.Text.Cutting
import Issuance.Proofs.Text.Spans
import Issuance.Text.Word

/-! # Searches and words

    A search passes over a text at none of whose characters a match starts. A word never reaches
    over a character that no word is made of, so such a character parts a text into two in which
    words can be looked for one after the other. -/

namespace Issuance.Text

variable {α : Type} {find : List Char → Option α} {c sep : Char} {s t word : List Char}

/-! ### Searches -/

theorem search_of_some {a : α} (h : find s = some a) : search find s = some a := by
  cases s with
  | nil => exact h
  | cons c rest => rw [search, h, Option.some_or]

theorem search_append_of_none : ∀ {s : List Char},
    (∀ u, u <:+ s → u ≠ [] → find (u ++ t) = none) → search find (s ++ t) = search find t
  | [], _ => rfl
  | c :: rest, h => by
    have hnone : find (c :: (rest ++ t)) = none :=
      h (c :: rest) List.suffix_rfl (List.cons_ne_nil c rest)
    rw [List.cons_append, search, hnone, Option.none_or]
    exact search_append_of_none fun u hu => h u (hu.trans (List.suffix_cons c rest))

/-- A search for what starts with a character passes over a text without that character. -/
theorem search_append_of_not_mem (hfind : ∀ u : List Char, u.head? ≠ some c → find u = none)
    (h : c ∉ s) : search find (s ++ t) = search find t := by
  refine search_append_of_none fun u hu hne => hfind _ ?_
  obtain ⟨d, rest, rfl⟩ := List.exists_cons_of_ne_nil hne
  intro hd
  exact h (hu.subset (Option.some.inj hd ▸ List.mem_cons_self))

theorem after?_of_head?_ne {mark : List Char} (h : s.head? ≠ some c) :
    after? (c :: mark) s = none := by
  rw [after?_eq_none_iff]
  rintro ⟨rest, rfl⟩
  exact h rfl

/-! ### Words -/

/-- A word stands alone in a text: neither neighbour of it is a character that words are made of. -/
def StandsAlone (word s : List Char) : Prop :=
  ∃ before after, s = before ++ (word ++ after) ∧ (∀ c ∈ before.getLast?, isWordChar c = false) ∧
    Stops isWordChar after

theorem stops_iff_any_head? {p : Char → Bool} : Stops p s ↔ s.head?.any p = false := by
  cases s with
  | nil => exact iff_of_true stops_nil rfl
  | cons c rest => exact stops_cons

theorem hasWordFrom_iff (hword : word ≠ []) : ∀ {s : List Char} {joined : Bool},
    hasWordFrom word joined s = true ↔ ∃ before after, s = before ++ (word ++ after) ∧
      (before.getLast?.map isWordChar).getD joined = false ∧ Stops isWordChar after
  | [], joined => by
    refine iff_of_false (by simp [hasWordFrom]) ?_
    rintro ⟨before, after, h, -⟩
    exact hword (List.append_eq_nil_iff.mp (List.append_eq_nil_iff.mp h.symm).2).1
  | c :: rest, joined => by
    rw [hasWordFrom, Bool.or_eq_true, hasWordFrom_iff hword]
    simp only [Bool.and_eq_true, Bool.not_eq_true', List.isPrefixOf_iff_prefix]
    constructor
    · rintro (⟨⟨hjoined, after, hafter⟩, hstop⟩ | ⟨before, after, rfl, hbefore, hafter⟩)
      · rw [← hafter, List.drop_left] at hstop
        exact ⟨[], after, hafter.symm, hjoined, stops_iff_any_head?.mpr hstop⟩
      · refine ⟨c :: before, after, rfl, ?_, hafter⟩
        rw [List.getLast?_cons, Option.map_some, Option.getD_some, ← hbefore, Option.getD_map]
    · rintro ⟨before, after, h, hbefore, hafter⟩
      cases before with
      | nil =>
        rw [List.nil_append] at h
        refine .inl ⟨⟨hbefore, after, h.symm⟩, ?_⟩
        rw [h, List.drop_left]
        exact stops_iff_any_head?.mp hafter
      | cons d before =>
        obtain ⟨rfl, rfl⟩ := List.cons.inj h
        refine .inr ⟨before, after, rfl, ?_, hafter⟩
        rw [List.getLast?_cons, Option.map_some, Option.getD_some] at hbefore
        rw [Option.getD_map, hbefore]

theorem hasWord_iff (hword : word ≠ []) : hasWord word s = true ↔ StandsAlone word s := by
  rw [hasWord, hasWordFrom_iff hword, StandsAlone]
  refine exists_congr fun before => exists_congr fun after => and_congr_right fun _ =>
    and_congr_left fun _ => ?_
  cases before.getLast? <;> simp

theorem hasWordFrom_append_cons (hword : word ≠ []) (hsep : sep ∉ word)
    (hpart : isWordChar sep = false) (t : List Char) : ∀ (s : List Char) (joined : Bool),
    hasWordFrom word joined (s ++ sep :: t) = (hasWordFrom word joined s || hasWord word t)
  | [], joined => by
    have hnone : word.isPrefixOf (sep :: t) = false := by
      rw [Bool.eq_false_iff, Ne, List.isPrefixOf_iff_prefix]
      intro hstarts
      have hnil : word <+: [] := prefix_of_prefix_append_cons hsep hstarts
      exact hword (List.prefix_nil.mp hnil)
    rw [List.nil_append, hasWordFrom.eq_2, hnone, hpart, Bool.and_false, Bool.false_and]
    rfl
  | c :: rest, joined => by
    have hhere : (word.isPrefixOf (c :: (rest ++ sep :: t)) &&
        !((c :: (rest ++ sep :: t)).drop word.length).head?.any isWordChar) =
        (word.isPrefixOf (c :: rest) &&
          !((c :: rest).drop word.length).head?.any isWordChar) := by
      by_cases hstarts : word <+: c :: rest
      · obtain ⟨after, hafter⟩ := hstarts
        have hlonger : c :: (rest ++ sep :: t) = word ++ (after ++ sep :: t) := by
          rw [← List.append_assoc, hafter, List.cons_append]
        rw [hlonger, ← hafter, List.drop_left, List.drop_left,
          List.isPrefixOf_iff_prefix.mpr (List.prefix_append _ _),
          List.isPrefixOf_iff_prefix.mpr (List.prefix_append _ _)]
        cases after <;> simp [hpart]
      · have hlonger : ¬word <+: c :: (rest ++ sep :: t) :=
          fun h => hstarts (prefix_of_prefix_append_cons hsep (List.cons_append ▸ h))
        rw [← List.isPrefixOf_iff_prefix, Bool.not_eq_true] at hstarts hlonger
        rw [hstarts, hlonger, Bool.false_and, Bool.false_and]
    rw [List.cons_append, hasWordFrom, hasWordFrom, Bool.and_assoc, Bool.and_assoc, hhere,
      hasWordFrom_append_cons hword hsep hpart t rest, Bool.or_assoc]

/-- A character that no word is made of parts a text. -/
theorem hasWord_append_cons (hword : word ≠ []) (hsep : sep ∉ word)
    (hpart : isWordChar sep = false) (s t : List Char) :
    hasWord word (s ++ sep :: t) = (hasWord word s || hasWord word t) :=
  hasWordFrom_append_cons hword hsep hpart t s false

theorem hasWord_join (hword : word ≠ []) (hsep : sep ∉ word) (hpart : isWordChar sep = false) :
    ∀ ps : List (List Char), hasWord word (join [sep] ps) = ps.any (hasWord word)
  | [] => rfl
  | [p] => by rw [join_singleton, List.any_cons, List.any_nil, Bool.or_false]
  | p :: q :: ps => by
    rw [join_cons_cons, hasWord_append_cons hword hsep hpart, hasWord_join hword hsep hpart,
      ← List.any_cons]

end Issuance.Text

import Issuance.Proofs.Json.Respacing
import Issuance.Proofs.Placeholder.Matcher

/-! # Filling texts spaced another way

    What is looked for in a text never reaches over a line feed and never starts with white space.
    So changing the white space behind line feeds neither makes a match nor breaks one, and filling
    gives texts that differ in the same white space again, whatever is put in. -/

namespace Issuance

open Json (Blank Respaced isSpace)
open Text (Match pieces fillPieces)

namespace Text

/-- A matcher whose matches lie within a line and do not start with white space; a match is found
    before any other text as well. -/
structure Inline {α : Type} (find : List Char → Option (Match α)) : Prop where
  exists_mark : ∀ {s m}, find s = some m → ∃ c mark rest, s = c :: (mark ++ rest) ∧
    isSpace c = false ∧ '\n' ∉ c :: mark ∧ m.span = mark.length + 1
  found : ∀ {s t m}, find s = some m → s.take m.span <+: t → find t = some m

variable {α : Type} {find : List Char → Option (Match α)} {s t w : List Char}

/-- Nothing is found in white space. -/
theorem Inline.pieces_blank_append (hf : Inline find) (hw : Blank w) (t : List Char) :
    pieces find (w ++ t) = w.map .char ++ pieces find t := by
  refine pieces_append_of_none fun u hu hne => ?_
  rw [Option.eq_none_iff_forall_ne_some]
  intro m hm
  obtain ⟨c, rest, rfl⟩ := List.exists_cons_of_ne_nil hne
  obtain ⟨d, mark, _, heq, hd, -, -⟩ := hf.exists_mark hm
  obtain rfl := (List.cons.inj heq).1
  rw [hw c (hu.subset List.mem_cons_self)] at hd
  cases hd

/-- A match is found again, and what follows it differs in the white space behind line feeds. -/
theorem Inline.find_of_respaced (hf : Inline find) (h : Respaced s t) {m : Match α}
    (hm : find s = some m) : find t = some m ∧
      ∃ c mark r r', s = c :: (mark ++ r) ∧ t = c :: (mark ++ r') ∧ m.span = mark.length + 1 ∧
        Respaced r r' := by
  obtain ⟨c, mark, r, rfl, -, hline, hspan⟩ := hf.exists_mark hm
  obtain ⟨r', rfl, hr⟩ := h.of_append_left (a := c :: mark) hline
  refine ⟨hf.found hm ⟨r', ?_⟩, c, mark, r, r', rfl, rfl, hspan, hr⟩
  rw [hspan, ← List.cons_append, List.take_left' (List.length_cons)]

/-- Filling goes along with the change. The induction is on the length of the text, since a match is
    passed over in one step. -/
theorem Inline.respaced_fillPieces (hf : Inline find) (f : α → List Char) : ∀ {s t : List Char},
    Respaced s t → Respaced (fillPieces f (pieces find s)) (fillPieces f (pieces find t)) := by
  intro s
  induction hn : s.length using Nat.strong_induction_on generalizing s with
  | _ n ih =>
    subst hn
    intro t h
    have hshorter : ∀ {c : Char} (a b : List Char), b.length < (c :: (a ++ b)).length := by
      intro c a b
      rw [List.length_cons, List.length_append]
      omega
    cases h with
    | nil => exact .nil
    | @char c rest rest' hc hrest =>
      cases hm : find (c :: rest) with
      | none =>
        have hm' : find (c :: rest') = none := by
          rw [Option.eq_none_iff_forall_ne_some]
          intro m hsome
          have hback := (hf.find_of_respaced (Respaced.char hc hrest).symm hsome).1
          rw [hm] at hback
          cases hback
        rw [pieces_cons_of_none hm, pieces_cons_of_none hm']
        exact .char hc (ih _ (by simp) rfl hrest)
      | some m =>
        obtain ⟨hm', d, mark, r, r', heq, heq', hspan, hr⟩ :=
          hf.find_of_respaced (Respaced.char hc hrest) hm
        obtain ⟨rfl, rfl⟩ := List.cons.inj heq
        obtain ⟨-, rfl⟩ := List.cons.inj heq'
        have hdrop : ∀ u, (mark ++ u).drop (m.span - 1) = u := by
          intro u
          rw [hspan]
          exact List.drop_left
        rw [pieces_cons_of_some hm, pieces_cons_of_some hm', hdrop, hdrop]
        exact (Respaced.refl _).append (ih _ (hshorter mark r) rfl hr)
    | @gap w w' u u' hw hw' hu =>
      have hfill : ∀ {w : List Char}, Blank w → ∀ u, fillPieces f (pieces find ('\n' :: (w ++ u))) =
          '\n' :: (w ++ fillPieces f (pieces find u)) := by
        intro w hw u
        have hspace : Blank ('\n' :: w) := List.forall_mem_cons.mpr ⟨by decide, hw⟩
        rw [← List.cons_append, hf.pieces_blank_append hspace, fillPieces_append,
          fillPieces_map_char, List.cons_append]
      rw [hfill hw, hfill hw']
      exact .gap hw hw' (ih _ (hshorter w u) rfl hu)

/-- A literal text within a line is looked for within a line. -/
theorem inline_literal {c : Char} {mark : List Char} (hc : isSpace c = false)
    (hline : '\n' ∉ c :: mark) : Inline (literal (c :: mark)) := by
  constructor
  · intro s m h
    obtain ⟨⟨rest, rfl⟩, rfl⟩ := literal_eq_some_iff.mp h
    exact ⟨c, mark, rest, rfl, hc, hline, rfl⟩
  · intro s t m h ht
    obtain ⟨⟨rest, rfl⟩, rfl⟩ := literal_eq_some_iff.mp h
    rw [List.take_left] at ht
    exact literal_eq_some_iff.mpr ⟨ht, rfl⟩

end Text

namespace Placeholder

open Text (Inline)

variable {s t : List Char}

/-- Placeholders lie within a line. -/
theorem IsFinder.inline {α : Type} {find : List Char → Option (Match α)} (hf : IsFinder find) :
    Inline find := by
  refine ⟨fun {s m} h => ?_, hf.found⟩
  obtain ⟨path, rest, rfl, hpath, hspan⟩ := hf.exists_ofPath h
  have hslots := isSlotChar_of_mem_ofPath hpath
  have hline : '\n' ∉ ofPath path := fun hmem => absurd (hslots _ hmem) (by decide)
  refine ⟨'{', '{' :: (path ++ closing), rest, by simp [ofPath, opening], by decide, ?_, ?_⟩
  · simpa [ofPath, opening] using hline
  · simp [hspan, closing]

theorem respaced_fillBuiltins (b : Builtins) (h : Respaced s t) :
    Respaced (fillBuiltins b s) (fillBuiltins b t) := by
  have hnow : Inline (Text.literal nowPlaceholder) := (isFinder_literal (by decide)).inline
  have huuid : Inline (Text.literal uuidPlaceholder) := (isFinder_literal (by decide)).inline
  exact huuid.respaced_fillPieces _ (hnow.respaced_fillPieces _ h)

theorem respaced_fillAll (g : Grammar) (escaping : Escaping) (b : Builtins) (scope : Json.Object)
    (h : Respaced s t) : Respaced (fillAll g escaping b scope s) (fillAll g escaping b scope t) :=
  (isFinder_find g).inline.respaced_fillPieces _ (respaced_fillBuiltins b h)

end Placeholder
end Issuance

import Issuance.Proofs.Placeholder.Lookup
import Issuance.Proofs.Placeholder.Matcher

/-! # Texts that do not ask for the context

    A text may ask for the context by a path with a dollar sign, an object may not. Where no
    placeholder opens with a dollar sign the two find the same paths, and none of these asks for the
    context. -/

namespace Issuance.Placeholder

open Text (Match Piece pieces hits fillPieces)

/-- No placeholder of a text opens with a dollar sign. -/
def AsksNoDollar (s : List Char) : Prop := ¬opening ++ ['$'] <:+: s

variable {s : List Char} {path : List Char} {b : Builtins}

theorem asksNoDollar_of_not_mem (h : '$' ∉ s) : AsksNoDollar s :=
  fun hsub => h (hsub.subset (by simp))

theorem asksNoDollar_of_no_opening (h : ¬opening <:+: s) : AsksNoDollar s :=
  fun hsub => h ((List.prefix_append opening ['$']).isInfix.trans hsub)

/-! ### Paths -/

/-- A grammar without dollar signs has no path that holds one. -/
theorem Grammar.HasPath.not_mem_dollar (h : Grammar.HasPath { dollar := false } path) :
    '$' ∉ path := by
  cases h with
  | plain _ hchars => exact fun hmem => absurd (hchars '$' hmem) (by decide)
  | dollar hdollar _ _ => cases hdollar

theorem Grammar.HasPath.dollar_of_plain (h : Grammar.HasPath { dollar := false } path) :
    Grammar.HasPath { dollar := true } path := by
  cases h with
  | plain hne hchars => exact .plain hne hchars
  | dollar hdollar _ _ => cases hdollar

theorem find_dollar_eq (h : AsksNoDollar s) {t : List Char} (ht : t <:+ s) :
    Placeholder.find { dollar := true } t = Placeholder.find { dollar := false } t := by
  refine Option.ext fun m => ?_
  rw [find_eq_some_iff, find_eq_some_iff]
  constructor
  · rintro ⟨hpath, hstarts, hspan⟩
    refine ⟨?_, hstarts, hspan⟩
    generalize m.value = path at hpath hstarts
    cases hpath with
    | plain hne hchars => exact .plain hne hchars
    | @dollar word _ _ _ =>
      refine absurd (List.IsInfix.trans ?_ (hstarts.isInfix.trans ht.isInfix)) h
      exact ⟨[], word ++ closing, by simp [ofPath]⟩
  · rintro ⟨hpath, hstarts, hspan⟩
    exact ⟨hpath.dollar_of_plain, hstarts, hspan⟩

/-- Both grammars cut such a text into the same pieces. -/
theorem pieces_dollar_eq (h : AsksNoDollar s) :
    pieces (Placeholder.find { dollar := true }) s =
      pieces (Placeholder.find { dollar := false }) s :=
  Text.pieces_congr (fun _ ht => find_dollar_eq h ht) 0

/-- No path found without dollar signs starts with the name of the context. -/
theorem not_mem_dollar_of_mem_hits
    (h : path ∈ hits (pieces (Placeholder.find { dollar := false }) s)) : '$' ∉ path := by
  obtain ⟨t, m, -, hm, rfl⟩ := Text.exists_find_of_mem_hits 0 h
  exact (find_eq_some_iff.mp hm).1.not_mem_dollar

theorem not_mem_firstName {c : Char} (h : c ∉ path) : c ∉ (firstName path).toList := by
  rw [firstName, String.toList_ofList]
  exact fun hmem => h ((List.takeWhile_prefix _).subset hmem)

/-! ### Reserved placeholders -/

theorem IsFinder.fillPieces_eq_self {α : Type} {find : List Char → Option (Match α)}
    (hf : IsFinder find) (f : α → List Char) (h : ¬opening <:+: s) :
    fillPieces f (pieces find s) = s := by
  rw [Text.pieces_eq_map_char, Text.fillPieces_map_char]
  exact fun t ht _ => hf.find_eq_none fun hstarts => h (hstarts.isInfix.trans ht.isInfix)

/-- A text without opening braces holds no reserved placeholder. -/
theorem fillBuiltins_eq_self (b : Builtins) (h : ¬opening <:+: s) : fillBuiltins b s = s := by
  have hnow : Text.replace nowPlaceholder b.now s = s :=
    (isFinder_literal (by decide)).fillPieces_eq_self _ h
  rw [fillBuiltins, hnow]
  exact (isFinder_literal (by decide)).fillPieces_eq_self _ h

/-- Filling the reserved placeholders brings in no dollar sign. -/
theorem not_mem_fillBuiltins (hnow : '$' ∉ b.now) (huuid : '$' ∉ b.uuid) (h : '$' ∉ s) :
    '$' ∉ fillBuiltins b s := by
  have hreplace : ∀ {old new text : List Char}, '$' ∉ new → '$' ∉ text →
      '$' ∉ Text.replace old new text := by
    intro old new text hnew htext hmem
    rcases Text.mem_of_mem_fillPieces 0 hmem with hmem | ⟨-, hmem⟩
    · exact htext hmem
    · exact hnew hmem
  exact hreplace huuid (hreplace hnow h)

/-- Filling the reserved placeholders of a text without dollar signs or without opening braces makes
    no placeholder that opens with a dollar sign. -/
theorem asksNoDollar_fillBuiltins (hnow : '$' ∉ b.now) (huuid : '$' ∉ b.uuid)
    (h : '$' ∉ s ∨ ¬opening <:+: s) : AsksNoDollar (fillBuiltins b s) := by
  rcases h with h | h
  · exact asksNoDollar_of_not_mem (not_mem_fillBuiltins hnow huuid h)
  · rw [fillBuiltins_eq_self b h]
    exact asksNoDollar_of_no_opening h

end Issuance.Placeholder

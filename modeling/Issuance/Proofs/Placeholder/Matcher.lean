import Issuance.Placeholder
import Issuance.Proofs.Text.Filling
import Issuance.Proofs.Text.Spans
import Mathlib.Data.List.Basic

/-! # Where placeholders are found

    The walk for a reserved placeholder and the walk for paths have this in common: what they find
    is written in a few characters, the slot characters, starts with two braces, and is found
    wherever it stands. So a match never reaches over any other character, and a text may be cut
    there. -/

namespace Issuance.Placeholder

open Text (Match Piece Stops pieces hits)

/-- The characters that placeholders are written in. -/
def isSlotChar (c : Char) : Bool := isPathChar c || c == '{' || c == '}' || c == '$'

/-- A matcher of placeholders: a match is a placeholder of slot characters at the head of the text,
    and is found before any other text as well. -/
structure IsFinder {α : Type} (find : List Char → Option (Match α)) : Prop where
  exists_ofPath : ∀ {s m}, find s = some m →
    ∃ path rest, s = ofPath path ++ rest ∧ (∀ c ∈ path, isSlotChar c = true) ∧
      m.span = path.length + 4
  found : ∀ {s t m}, find s = some m → s.take m.span <+: t → find t = some m

variable {α : Type} {find : List Char → Option (Match α)}

theorem isSlotChar_of_mem_ofPath {path : List Char} (h : ∀ c ∈ path, isSlotChar c = true) :
    ∀ c ∈ ofPath path, isSlotChar c = true := by
  intro c hc
  simp only [ofPath, opening, closing, List.mem_append, List.mem_cons, List.not_mem_nil,
    or_false, or_self] at hc
  rcases hc with (rfl | hc) | rfl
  · decide
  · exact h c hc
  · decide

theorem length_ofPath (path : List Char) : (ofPath path).length = path.length + 4 := by
  simp [ofPath, opening, closing]

theorem isSlotChar_of_isPathChar {c : Char} (h : isPathChar c = true) : isSlotChar c = true := by
  simp [isSlotChar, h]

/-! ### What a match says about its text -/

/-- A match lies within the slot characters that the text starts with. -/
theorem IsFinder.span_le (hf : IsFinder find) {s : List Char} {m : Match α} (h : find s = some m) :
    m.span ≤ (s.takeWhile isSlotChar).length := by
  obtain ⟨path, rest, rfl, hpath, hspan⟩ := hf.exists_ofPath h
  rw [List.takeWhile_append_of_pos (isSlotChar_of_mem_ofPath hpath), List.length_append,
    length_ofPath, hspan]
  exact Nat.le_add_right _ _

/-- Whether something is found, and what, is settled by the slot characters at the head. -/
theorem IsFinder.find_congr (hf : IsFinder find) {s t : List Char}
    (h : s.takeWhile isSlotChar = t.takeWhile isSlotChar) : find s = find t := by
  have hfound : ∀ {s t : List Char}, s.takeWhile isSlotChar = t.takeWhile isSlotChar →
      ∀ {m}, find s = some m → find t = some m := by
    intro s t h m hm
    refine hf.found hm ?_
    have htake : s.take m.span <+: s.takeWhile isSlotChar :=
      List.prefix_of_prefix_length_le (List.take_prefix _ _) (List.takeWhile_prefix _)
        ((List.length_take_le _ _).trans (hf.span_le hm))
    exact (h ▸ htake).trans (List.takeWhile_prefix _)
  exact Option.ext fun m => ⟨hfound h, hfound h.symm⟩

/-- Nothing is found but at two opening braces. -/
theorem IsFinder.find_eq_none (hf : IsFinder find) {s : List Char} (h : ¬opening <+: s) :
    find s = none := by
  rw [Option.eq_none_iff_forall_ne_some]
  intro m hm
  obtain ⟨path, rest, rfl, _, _⟩ := hf.exists_ofPath hm
  exact h ⟨path ++ closing ++ rest, by simp [ofPath]⟩

/-! ### Cutting a text where no match reaches -/

/-- A match ends within its text. -/
theorem IsFinder.span_le_length (hf : IsFinder find) {s : List Char} {m : Match α}
    (h : find s = some m) : m.span ≤ s.length :=
  (hf.span_le h).trans (List.takeWhile_prefix isSlotChar).length_le

/-- A text may be cut at a character that no placeholder holds. -/
theorem IsFinder.pieces_append_cons (hf : IsFinder find) {c : Char} (hc : isSlotChar c = false)
    (t s : List Char) : pieces find (s ++ c :: t) = pieces find s ++ .char c :: pieces find t := by
  have hnone : find (c :: t) = none := by
    refine hf.find_eq_none ?_
    rintro ⟨u, hu⟩
    obtain ⟨rfl, -⟩ := List.cons.inj hu
    cases hc
  rw [← Text.pieces_cons_of_none hnone]
  refine Text.pieces_append fun u _ _ => ⟨hf.find_congr ?_, fun m => hf.span_le_length⟩
  exact Text.takeWhile_append_stops (Text.stops_cons.mpr hc) u

/-- Nothing is found in a text without an opening brace, whatever follows it. -/
theorem IsFinder.pieces_append_of_no_brace (hf : IsFinder find) (t : List Char) {s : List Char}
    (h : '{' ∉ s) : pieces find (s ++ t) = s.map .char ++ pieces find t := by
  refine Text.pieces_append_of_none fun u hu hne => hf.find_eq_none ?_
  obtain ⟨c, rest, rfl⟩ := List.exists_cons_of_ne_nil hne
  rintro ⟨v, hv⟩
  obtain rfl := (List.cons.inj hv).1
  exact h (hu.subset List.mem_cons_self)

/-- Nothing is found at a brace before anything but another one. -/
theorem IsFinder.pieces_brace (hf : IsFinder find) {t : List Char}
    (h : Stops (· == '{') t) : pieces find ('{' :: t) = .char '{' :: pieces find t := by
  refine Text.pieces_cons_of_none (hf.find_eq_none ?_)
  rintro ⟨u, hu⟩
  obtain ⟨-, rfl⟩ := List.cons.inj hu
  simp at h

/-! ### The matchers -/

/-- A reserved placeholder is found by its letters. -/
theorem isFinder_literal {path : List Char} (hall : path.all isSlotChar = true) :
    IsFinder (Text.literal (ofPath path)) := by
  have hpath : ∀ c ∈ path, isSlotChar c = true := List.all_eq_true.mp hall
  constructor
  · intro s m h
    obtain ⟨⟨rest, rfl⟩, rfl⟩ := Text.literal_eq_some_iff.mp h
    exact ⟨path, rest, rfl, hpath, length_ofPath path⟩
  · intro s t m h ht
    obtain ⟨⟨rest, rfl⟩, rfl⟩ := Text.literal_eq_some_iff.mp h
    rw [List.take_left] at ht
    exact Text.literal_eq_some_iff.mpr ⟨ht, rfl⟩

/-- A path that a grammar has: path characters, behind a `$` where one may come. -/
inductive Grammar.HasPath (g : Grammar) : List Char → Prop
  | plain {path : List Char} : path ≠ [] → (∀ c ∈ path, isPathChar c = true) → g.HasPath path
  | dollar {path : List Char} : g.dollar = true → path ≠ [] → (∀ c ∈ path, isPathChar c = true) →
      g.HasPath ('$' :: path)

theorem closedPath?_eq_some_iff {s path : List Char} :
    closedPath? s = some path ↔
      path ≠ [] ∧ (∀ c ∈ path, isPathChar c = true) ∧ path ++ closing <+: s := by
  constructor
  · intro h
    rw [closedPath?] at h
    split_ifs at h with hclosed
    cases h
    obtain ⟨rest, hrest⟩ := List.isPrefixOf_iff_prefix.mp hclosed.2
    refine ⟨hclosed.1, fun c hc => List.mem_takeWhile_imp hc, rest, ?_⟩
    rw [List.append_assoc, hrest, List.takeWhile_append_dropWhile]
  · rintro ⟨hne, hpath, rest, rfl⟩
    have hstops : Stops isPathChar (closing ++ rest) := by
      rw [closing, List.cons_append]
      exact Text.stops_cons.mpr (by decide)
    rw [closedPath?, List.append_assoc, Text.takeWhile_append_stops hstops,
      Text.dropWhile_span_append hpath hstops, List.takeWhile_eq_self_iff.mpr hpath, if_pos]
    exact ⟨hne, List.isPrefixOf_iff_prefix.mpr ⟨rest, rfl⟩⟩

theorem not_isPathChar_dollar {path : List Char} (h : ∀ c ∈ path, isPathChar c = true) :
    ∀ rest, path ≠ '$' :: rest := by
  rintro rest rfl
  exact absurd (h '$' List.mem_cons_self) (by decide)

/-- Behind the opening braces, a path of a grammar starts a text just when it is closed there. -/
theorem path?_opening_eq_some_iff {g : Grammar} {inner path : List Char} :
    path? g (opening ++ inner) = some path ↔ g.HasPath path ∧ path ++ closing <+: inner := by
  rw [path?, Text.after?_append]
  constructor
  · intro h
    dsimp only at h
    split at h
    · next rest =>
      split_ifs at h with hdollar
      obtain ⟨word, hword, rfl⟩ := Option.map_eq_some_iff.mp h
      obtain ⟨hne, hchars, hstarts⟩ := closedPath?_eq_some_iff.mp hword
      exact ⟨.dollar hdollar hne hchars, List.cons_prefix_cons.mpr ⟨rfl, hstarts⟩⟩
    · obtain ⟨hne, hchars, hstarts⟩ := closedPath?_eq_some_iff.mp h
      exact ⟨.plain hne hchars, hstarts⟩
  · rintro ⟨hpath, hstarts⟩
    cases hpath with
    | plain hne hchars =>
      have hclosed := closedPath?_eq_some_iff.mpr ⟨hne, hchars, hstarts⟩
      dsimp only
      split
      · next rest =>
        obtain ⟨c, word, rfl⟩ := List.exists_cons_of_ne_nil hne
        have hc := (List.cons_prefix_cons.mp hstarts).1
        exact absurd (hc ▸ rfl) (not_isPathChar_dollar hchars word)
      · exact hclosed
    | dollar hdollar hne hchars =>
      obtain ⟨rest, rfl⟩ := hstarts
      have hclosed := closedPath?_eq_some_iff.mpr ⟨hne, hchars, rest, rfl⟩
      rw [List.append_assoc] at hclosed
      simp [hdollar, hclosed]

/-- A path starts a text just when its placeholder does. -/
theorem path?_eq_some_iff {g : Grammar} {s path : List Char} :
    path? g s = some path ↔ g.HasPath path ∧ ofPath path <+: s := by
  constructor
  · intro h
    obtain ⟨inner, rfl⟩ : opening <+: s := by
      rw [path?] at h
      split at h
      · cases h
      · next inner hsome => exact ⟨inner, Text.after?_eq_some_iff.mp hsome⟩
    obtain ⟨hpath, hstarts⟩ := path?_opening_eq_some_iff.mp h
    rw [ofPath, List.append_assoc]
    exact ⟨hpath, (List.prefix_append_right_inj _).mpr hstarts⟩
  · rintro ⟨hpath, rest, rfl⟩
    rw [ofPath, List.append_assoc, List.append_assoc]
    exact path?_opening_eq_some_iff.mpr ⟨hpath, rest, List.append_assoc _ _ _⟩

theorem Grammar.HasPath.isSlotChar {g : Grammar} {path : List Char} (h : g.HasPath path) :
    ∀ c ∈ path, isSlotChar c = true := by
  cases h with
  | plain _ hchars => exact fun c hc => isSlotChar_of_isPathChar (hchars c hc)
  | dollar _ _ hchars =>
    intro c hc
    rcases List.mem_cons.mp hc with rfl | hc
    · decide
    · exact isSlotChar_of_isPathChar (hchars c hc)

theorem find_eq_some_iff {g : Grammar} {s : List Char} {m : Match (List Char)} :
    Placeholder.find g s = some m ↔
      g.HasPath m.value ∧ ofPath m.value <+: s ∧ m.span = m.value.length + 4 := by
  rw [Placeholder.find, Option.map_eq_some_iff]
  constructor
  · rintro ⟨path, hpath, rfl⟩
    obtain ⟨hg, hstarts⟩ := path?_eq_some_iff.mp hpath
    exact ⟨hg, hstarts, rfl⟩
  · rintro ⟨hg, hstarts, hspan⟩
    exact ⟨m.value, path?_eq_some_iff.mpr ⟨hg, hstarts⟩, by rw [← hspan]⟩

/-- The placeholders of a grammar are found by their paths. -/
theorem isFinder_find (g : Grammar) : IsFinder (Placeholder.find g) := by
  constructor
  · intro s m h
    obtain ⟨hg, ⟨rest, rfl⟩, hspan⟩ := find_eq_some_iff.mp h
    exact ⟨m.value, rest, rfl, hg.isSlotChar, hspan⟩
  · intro s t m h ht
    obtain ⟨hg, ⟨rest, rfl⟩, hspan⟩ := find_eq_some_iff.mp h
    rw [List.take_left' (by rw [length_ofPath, hspan])] at ht
    exact find_eq_some_iff.mpr ⟨hg, ht, hspan⟩

end Issuance.Placeholder

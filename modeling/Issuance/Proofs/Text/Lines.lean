import Issuance.Proofs.Text.Cutting
import Issuance.Proofs.Text.Filling
import Issuance.Text.Lines
import Mathlib.Data.List.Basic

/-! # Lines of a text

    Whatever follows a line feed is cut into lines by itself, so the lines of two texts written one
    after the other are the lines of both, as long as the first one ends a line. How line ends are
    written leaves no trace in the lines. -/

namespace Issuance.Text

variable {s t line back : List Char}

/-- A text behind which a new line starts. -/
def EndsLine (s : List Char) : Prop := s = [] ∨ ∃ r, s = r ++ ['\n']

theorem endsLine_nil : EndsLine [] := .inl rfl

theorem EndsLine.append (hs : EndsLine s) (ht : EndsLine t) : EndsLine (s ++ t) := by
  rcases ht with rfl | ⟨r, rfl⟩
  · rwa [List.append_nil]
  · exact .inr ⟨s ++ r, (List.append_assoc s r _).symm⟩

/-- A line with its line feed. -/
def lineOf (line : List Char) : List Char := line ++ ['\n']

theorem endsLine_lineOf (line : List Char) : EndsLine (lineOf line) := .inr ⟨line, rfl⟩

/-! ### Texts one after the other -/

/-- What follows a line feed is cut by itself. -/
theorem linesFrom_append_cons (t : List Char) : ∀ s back : List Char,
    linesFrom back (s ++ '\n' :: t) = linesFrom back (s ++ ['\n']) ++ lines t
  | [], _ => rfl
  | c :: rest, back => by
    rw [List.cons_append, List.cons_append, linesFrom, linesFrom]
    split
    · rw [linesFrom_append_cons t rest [], List.cons_append]
    · exact linesFrom_append_cons t rest (c :: back)

theorem lines_append (hs : EndsLine s) (t : List Char) : lines (s ++ t) = lines s ++ lines t := by
  rcases hs with rfl | ⟨r, rfl⟩
  · rfl
  · rw [List.append_assoc]
    exact linesFrom_append_cons t r []

/-! ### Single lines -/

/-- A text that is one line when a line feed is put behind it. -/
def IsLine (line : List Char) : Prop := '\n' ∉ line ∧ line.getLast? ≠ some '\r'

theorem IsLine.append (hs : IsLine s) (ht : IsLine t) : IsLine (s ++ t) := by
  refine ⟨List.not_mem_append hs.1 ht.1, fun hlast => ?_⟩
  rw [List.getLast?_append] at hlast
  rcases Option.or_eq_some_iff.mp hlast with hlast | ⟨-, hlast⟩
  · exact ht.2 hlast
  · exact hs.2 hlast

theorem isLine_join {sep : Char} (hsep : IsLine [sep]) : ∀ {ps : List (List Char)},
    (∀ p ∈ ps, IsLine p) → IsLine (join [sep] ps)
  | [], _ => ⟨List.not_mem_nil, Option.some_ne_none _ |>.symm⟩
  | [p], h => by
    rw [join_singleton]
    exact h p List.mem_cons_self
  | p :: q :: ps, h => by
    have hrest := isLine_join hsep fun r hr => h r (List.mem_cons_of_mem p hr)
    rw [join_cons_cons]
    exact (h p List.mem_cons_self).append (hsep.append hrest)

theorem linesFrom_append_of_not_mem (rest : List Char) : ∀ {s : List Char} (back : List Char),
    '\n' ∉ s → linesFrom back (s ++ rest) = linesFrom (s.reverse ++ back) rest
  | [], _, _ => rfl
  | c :: s, back, h => by
    rw [List.mem_cons, not_or] at h
    rw [List.cons_append, linesFrom, if_neg fun hc => h.1 hc.symm,
      linesFrom_append_of_not_mem rest (c :: back) h.2, List.reverse_cons, List.append_assoc,
      List.singleton_append]

theorem closeLine_of_head (h : back.head? ≠ some '\r') : closeLine back = back.reverse := by
  cases back with
  | nil => rfl
  | cons c rest =>
    rw [closeLine]
    rintro rest' heq
    obtain ⟨rfl, -⟩ := List.cons.inj heq
    exact h rfl

theorem lines_lineOf (h : IsLine line) : lines (lineOf line) = [line] := by
  have hclose : closeLine line.reverse = line := by
    rw [closeLine_of_head (by rw [List.head?_reverse]; exact h.2), List.reverse_reverse]
  rw [lines, lineOf, linesFrom_append_of_not_mem _ _ h.1, List.append_nil, linesFrom, if_pos rfl,
    hclose]
  rfl

/-- Lines written one after the other, each with its line feed. -/
theorem lines_flatMap_lineOf : ∀ {ls : List (List Char)}, (∀ l ∈ ls, IsLine l) →
    lines (ls.flatMap lineOf) = ls
  | [], _ => rfl
  | l :: rest, h => by
    rw [List.flatMap_cons, lines_append (endsLine_lineOf l), lines_lineOf (h l List.mem_cons_self),
      lines_flatMap_lineOf fun m hm => h m (List.mem_cons_of_mem l hm), List.singleton_append]

theorem endsLine_flatMap_lineOf : ∀ ls : List (List Char), EndsLine (ls.flatMap lineOf)
  | [] => endsLine_nil
  | l :: rest => by
    rw [List.flatMap_cons]
    exact (endsLine_lineOf l).append (endsLine_flatMap_lineOf rest)

/-! ### Texts that do not end their last line -/

/-- Ending the last line of a text without carriage returns leaves its lines as they are. -/
theorem linesFrom_concat : ∀ {s back : List Char}, '\r' ∉ s → back.head? ≠ some '\r' →
    s.getLast? ≠ some '\n' → s ≠ [] ∨ back ≠ [] → linesFrom back (s ++ ['\n']) = linesFrom back s
  | [], back, _, hback, _, hne => by
    have hfilled : back.isEmpty = false := by simpa using hne
    simp [linesFrom, closeLine_of_head hback, hfilled]
  | c :: rest, back, hs, hback, hlast, _ => by
    rw [List.mem_cons, not_or] at hs
    have hrest : rest.getLast? ≠ some '\n' := by
      intro hrest
      rw [List.getLast?_cons, hrest] at hlast
      exact hlast rfl
    rw [List.cons_append, linesFrom, linesFrom]
    split
    · next hc =>
      have hne : rest ≠ [] := by
        rintro rfl
        exact hlast (congrArg some hc)
      rw [linesFrom_concat hs.2 (by simp) hrest (.inl hne)]
    · exact linesFrom_concat hs.2 (by simpa using Ne.symm hs.1) hrest
        (.inr (List.cons_ne_nil c back))

theorem flatMap_lineOf_linesFrom : ∀ {s back : List Char}, '\r' ∉ s → back.head? ≠ some '\r' →
    (linesFrom back (s ++ ['\n'])).flatMap lineOf = back.reverse ++ (s ++ ['\n'])
  | [], back, _, hback => by
    simp [linesFrom, closeLine_of_head hback, lineOf]
  | c :: rest, back, hs, hback => by
    rw [List.mem_cons, not_or] at hs
    rw [List.cons_append, linesFrom]
    split
    · next hc =>
      subst hc
      rw [List.flatMap_cons, flatMap_lineOf_linesFrom hs.2 (by simp), closeLine_of_head hback,
        lineOf]
      simp
    · rw [flatMap_lineOf_linesFrom hs.2 (by simpa using Ne.symm hs.1)]
      simp

/-- A text without carriage returns has the same lines whether its last line ends or not. -/
theorem lines_concat (hne : s ≠ []) (hreturn : '\r' ∉ s) (hlast : s.getLast? ≠ some '\n') :
    lines (s ++ ['\n']) = lines s :=
  linesFrom_concat hreturn (by simp) hlast (.inl hne)

/-- The lines of a text without carriage returns make the text again. -/
theorem flatMap_lineOf_lines (hne : s ≠ []) (hreturn : '\r' ∉ s) (hlast : s.getLast? ≠ some '\n') :
    (lines s).flatMap lineOf = s ++ ['\n'] := by
  rw [← lines_concat hne hreturn hlast]
  exact flatMap_lineOf_linesFrom hreturn (by simp)

/-! ### Line ends -/

/-- A text with a carriage return before every line feed. -/
def withReturns (s : List Char) : List Char := replace ['\n'] ['\r', '\n'] s

theorem withReturns_cons (c : Char) (rest : List Char) :
    withReturns (c :: rest) = (if c = '\n' then ['\r', '\n'] else [c]) ++ withReturns rest := by
  by_cases hc : c = '\n'
  · subst hc
    have hfind : literal ['\n'] ('\n' :: rest) = some ⟨1, ()⟩ := by simp [literal]
    rw [withReturns, replace, pieces_cons_of_some hfind, fillPieces, if_pos rfl]
    rfl
  · have hfind : literal ['\n'] (c :: rest) = none := by simp [literal, Ne.symm hc]
    rw [withReturns, replace, pieces_cons_of_none hfind, fillPieces, if_neg hc]
    rfl

theorem linesFrom_withReturns : ∀ {s : List Char} {back : List Char}, '\r' ∉ s →
    back.head? ≠ some '\r' → linesFrom back (withReturns s) = linesFrom back s
  | [], _, _, _ => rfl
  | c :: rest, back, hs, hback => by
    rw [List.mem_cons, not_or] at hs
    rw [withReturns_cons, linesFrom]
    split
    · next hc =>
      subst hc
      have hopen : linesFrom [] (withReturns rest) = linesFrom [] rest :=
        linesFrom_withReturns hs.2 (by simp)
      have hreturn : ('\r' : Char) ≠ '\n' := by decide
      rw [List.cons_append, List.cons_append, List.nil_append, linesFrom, if_neg hreturn, linesFrom,
        if_pos rfl, hopen, closeLine_of_head hback, closeLine]
    · next hc =>
      rw [List.singleton_append, linesFrom, if_neg hc]
      exact linesFrom_withReturns hs.2 (by simpa using Ne.symm hs.1)

/-- Carriage returns at the line ends make no difference. -/
theorem lines_withReturns (h : '\r' ∉ s) : lines (withReturns s) = lines s :=
  linesFrom_withReturns h (by simp)

end Issuance.Text

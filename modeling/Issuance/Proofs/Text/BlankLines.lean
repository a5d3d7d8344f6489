import Issuance.Proofs.Json.Respacing
import Issuance.Proofs.Text.Lines
import Issuance.Proofs.Text.Trimming

/-! # Blank lines

    A text is blank when all of its lines are, and whether its last line ends makes no difference
    once it is trimmed. Where the blank lines of a text hold no other white space than JSON knows,
    dropping them changes white space behind line feeds alone, and so does trimming what is left. -/

namespace Issuance

open Json (Blank Respaced isSpace)

namespace Text

variable {s t line : List Char} {ls : List (List Char)}

/-! ### White space in lines -/

theorem isLine_of_trimmed (h : Trimmed s) (hnewline : '\n' ∉ s) : IsLine s := by
  refine ⟨hnewline, fun hlast => ?_⟩
  rw [List.getLast?_eq_head?_reverse] at hlast
  exact absurd (h.stops_reverse '\r' hlast) (by decide)

theorem allBlank_closeLine : ∀ back : List Char, allBlank (closeLine back) = allBlank back
  | [] => rfl
  | c :: rest => by
    have hreturn : isBlank '\r' = true := by decide
    by_cases hc : c = '\r'
    · subst hc
      rw [closeLine, allBlank_reverse, allBlank_cons, hreturn, Bool.true_and]
    · rw [closeLine_of_head (by simpa using hc), allBlank_reverse]

theorem all_allBlank_linesFrom : ∀ s back : List Char,
    (linesFrom back s).all allBlank = (allBlank back && allBlank s)
  | [], back => by
    rw [linesFrom]
    cases back with
    | nil => rfl
    | cons c rest =>
      simp only [List.isEmpty_cons, Bool.false_eq_true, if_false, List.all_cons, List.all_nil,
        allBlank_reverse, allBlank_nil]
  | c :: rest, back => by
    rw [linesFrom]
    split
    · next hc =>
      subst hc
      have hnewline : isBlank '\n' = true := by decide
      rw [List.all_cons, allBlank_closeLine, all_allBlank_linesFrom rest [], allBlank_cons,
        hnewline]
      rfl
    · rw [all_allBlank_linesFrom rest (c :: back), allBlank_cons, allBlank_cons, Bool.and_comm
        (isBlank c), Bool.and_assoc]

/-- A text is blank when its lines are. -/
theorem all_allBlank_lines (s : List Char) : (lines s).all allBlank = allBlank s :=
  all_allBlank_linesFrom s []

theorem allBlank_flatMap_lineOf : ∀ ls : List (List Char),
    allBlank (ls.flatMap lineOf) = ls.all allBlank
  | [] => rfl
  | l :: rest => by
    have hnewline : allBlank ['\n'] = true := by decide
    rw [List.flatMap_cons, lineOf, allBlank_append, allBlank_append, hnewline, Bool.and_true,
      allBlank_flatMap_lineOf rest, List.all_cons]

theorem joinLines_cons_cons (l m : List Char) (ls : List (List Char)) :
    joinLines (l :: m :: ls) = l ++ '\n' :: joinLines (m :: ls) := by
  simp [joinLines, List.intercalate]

theorem allBlank_joinLines : ∀ ls : List (List Char), allBlank (joinLines ls) = ls.all allBlank
  | [] => rfl
  | [l] => by simp [joinLines, List.intercalate]
  | l :: m :: ls => by
    have hnewline : isBlank '\n' = true := by decide
    rw [joinLines_cons_cons, allBlank_append, allBlank_cons, hnewline, Bool.true_and,
      allBlank_joinLines (m :: ls)]
    rfl

theorem flatMap_lineOf_eq : ∀ {ls : List (List Char)}, ls ≠ [] →
    ls.flatMap lineOf = joinLines ls ++ ['\n']
  | [], h => absurd rfl h
  | [l], _ => by simp [joinLines, List.intercalate, lineOf]
  | l :: m :: ls, _ => by
    rw [List.flatMap_cons, flatMap_lineOf_eq (List.cons_ne_nil m ls), joinLines_cons_cons, lineOf]
    simp

/-- Lines joined or each with its line feed are the same text once it is trimmed. -/
theorem trim_flatMap_lineOf (ls : List (List Char)) :
    trim (ls.flatMap lineOf) = trim (joinLines ls) := by
  cases ls with
  | nil => rfl
  | cons l rest =>
    rw [flatMap_lineOf_eq (List.cons_ne_nil l rest)]
    exact trim_append_right (by decide) _

/-! ### Texts without their blank lines -/

theorem isBlank_of_isSpace {c : Char} (h : isSpace c = true) : isBlank c = true := by
  simp only [isSpace, Bool.or_eq_true, beq_iff_eq] at h
  rcases h with ((rfl | rfl) | rfl) | rfl <;> decide

theorem allBlank_of_blank (h : Blank s) : allBlank s = true :=
  allBlank_iff.mpr fun c hc => isBlank_of_isSpace (h c hc)

theorem allBlank_of_respaced (h : Respaced s t) : allBlank s = allBlank t := by
  induction h with
  | nil => rfl
  | char _ _ ih => rw [allBlank_cons, allBlank_cons, ih]
  | gap hw hw' _ ih =>
    rw [allBlank_cons, allBlank_cons, allBlank_append, allBlank_append, allBlank_of_blank hw,
      allBlank_of_blank hw', ih]

theorem respaced_trimStart (h : Respaced s t) : Respaced (trimStart s) (trimStart t) := by
  induction h with
  | nil => exact .nil
  | @char c s t hc hrest ih =>
    by_cases hblank : isBlank c
    · rw [trimStart, trimStart, List.dropWhile_cons_of_pos hblank,
        List.dropWhile_cons_of_pos hblank]
      exact ih
    · rw [trimStart, trimStart, List.dropWhile_cons_of_neg hblank,
        List.dropWhile_cons_of_neg hblank]
      exact .char hc hrest
  | @gap w w' s t hw hw' _ ih =>
    have hstart : ∀ {w : List Char}, Blank w → ∀ s, trimStart ('\n' :: (w ++ s)) = trimStart s := by
      intro w hw s
      have hnewline : isBlank '\n' = true := by decide
      rw [trimStart, List.dropWhile_cons_of_pos hnewline,
        List.dropWhile_append_of_pos fun c hc => isBlank_of_isSpace (hw c hc)]
      rfl
    rw [hstart hw, hstart hw']
    exact ih

theorem trimEnd_eq_nil (h : allBlank s = true) : trimEnd s = [] := by
  rw [trimEnd, List.dropWhile_eq_nil_iff.mpr, List.reverse_nil]
  exact allBlank_iff.mp (allBlank_reverse.trans h)

theorem trimEnd_append_of_blank (w : List Char) (h : allBlank s = true) :
    trimEnd (w ++ s) = trimEnd w := by
  rw [trimEnd, List.reverse_append,
    List.dropWhile_append_of_pos (allBlank_iff.mp (allBlank_reverse.trans h)), trimEnd]

theorem trimEnd_append_of_not_blank (w : List Char) (h : allBlank s = false) :
    trimEnd (w ++ s) = w ++ trimEnd s := by
  have hrest : (s.reverse.dropWhile isBlank).isEmpty = false := by
    rw [Bool.eq_false_iff]
    intro hempty
    have hall := List.dropWhile_eq_nil_iff.mp (List.isEmpty_iff.mp hempty)
    rw [← allBlank_iff, allBlank_reverse, h] at hall
    cases hall
  rw [trimEnd, List.reverse_append, List.dropWhile_append, hrest, if_neg (by decide),
    List.reverse_append, List.reverse_reverse, trimEnd]

theorem respaced_trimEnd (h : Respaced s t) : Respaced (trimEnd s) (trimEnd t) := by
  induction h with
  | nil => exact .nil
  | @char c s t hc hrest ih =>
    have hsame := allBlank_of_respaced hrest
    rw [← List.singleton_append, ← List.singleton_append (l := t)]
    cases hs : allBlank s with
    | true =>
      rw [trimEnd_append_of_blank _ hs, trimEnd_append_of_blank _ (hsame ▸ hs)]
      exact .refl _
    | false =>
      rw [trimEnd_append_of_not_blank _ hs, trimEnd_append_of_not_blank _ (hsame ▸ hs)]
      exact .char hc ih
  | @gap w w' s t hw hw' hrest ih =>
    have hsame := allBlank_of_respaced hrest
    rw [← List.cons_append, ← List.cons_append]
    cases hs : allBlank s with
    | true =>
      have hline : ∀ {w : List Char}, Blank w → allBlank ('\n' :: w) = true := by
        intro w hw
        rw [allBlank_cons, allBlank_of_blank hw]
        decide
      rw [trimEnd_append_of_blank _ hs, trimEnd_append_of_blank _ (hsame ▸ hs),
        trimEnd_eq_nil (hline hw), trimEnd_eq_nil (hline hw')]
      exact .nil
    | false =>
      rw [trimEnd_append_of_not_blank _ hs, trimEnd_append_of_not_blank _ (hsame ▸ hs)]
      exact .gap hw hw' ih

theorem respaced_trim (h : Respaced s t) : Respaced (trim s) (trim t) :=
  respaced_trimEnd (respaced_trimStart h)

/-- Dropping blank lines changes white space behind line feeds alone; a line feed before the text
    makes this true of its first lines as well. -/
theorem respaced_filter_lines : ∀ {ls : List (List Char)},
    (∀ l ∈ ls, allBlank l = true → Blank l) →
      Respaced ('\n' :: ls.flatMap lineOf) ('\n' :: (ls.filter (!allBlank ·)).flatMap lineOf)
  | [], _ => .refl _
  | l :: rest, h => by
    have hrest := respaced_filter_lines fun m hm => h m (List.mem_cons_of_mem l hm)
    rw [List.flatMap_cons, lineOf, List.append_assoc, List.singleton_append]
    cases hl : allBlank l with
    | true =>
      -- The blank line joins the white space behind the line feed before it.
      obtain ⟨w, u, w', u', hw, hu, hblank, hblank', hrespaced⟩ := hrest.of_newline_left
      have hline : Blank (l ++ ['\n']) :=
        (h l List.mem_cons_self hl).append (by simp [Blank, isSpace])
      rw [List.filter_cons_of_neg (by simp [hl]), hw, hu, ← List.singleton_append (l := w ++ u),
        ← List.append_assoc, ← List.append_assoc]
      exact .gap (hline.append hblank) hblank' hrespaced
    | false =>
      rw [List.filter_cons_of_pos (by simp [hl]), List.flatMap_cons, lineOf, List.append_assoc,
        List.singleton_append]
      exact (Respaced.refl ('\n' :: l)).append hrest

end Text
end Issuance

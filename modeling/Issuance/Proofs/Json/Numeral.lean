import Issuance.Json.NumberLiteral
import Issuance.Proofs.Text.Spans

/-! # Number literals

    A number is read from the characters that numbers are made of, and from nothing behind them. So
    a literal that is read to its end alone is read alike, to the same end, before any text that
    does not go on with such a character. -/

namespace Issuance.Json

open Text (Stops)

/-- The characters of number literals. -/
def isNumeric (c : Char) : Bool :=
  isDigit c || c == '.' || c == 'e' || c == 'E' || c == '+' || c == '-'

/-- Reads the number that starts here, with its sign. -/
def readNumeral : List Char → Except Fault (Number × List Char)
  | '-' :: rest => readNumber true rest
  | s => readNumber false s

/-- A literal that is read as a number to its end. -/
def Numeral (n : Number) (s : List Char) : Prop := readNumeral s = .ok (n, [])

/-- The readings of a text `s`, alone and with `t` behind it: both fail, or both read the same and
    leave the same end of `s`, with `t` behind it. -/
inductive Extends (s t : List Char) :
    Except Fault (Number × List Char) → Except Fault (Number × List Char) → Prop
  | ok (n : Number) {rest : List Char} : rest <:+ s →
      Extends s t (.ok (n, rest)) (.ok (n, rest ++ t))
  | error (f g : Fault) : Extends s t (.error f) (.error g)

namespace Extends

variable {s s' t : List Char} {x y : Except Fault (Number × List Char)}

theorem suffix (h : Extends s t x y) (hs : s <:+ s') : Extends s' t x y := by
  cases h with
  | ok n hrest => exact .ok n (hrest.trans hs)
  | error f g => exact .error f g

theorem float (negative : Bool) (m : Nat) (e : Int) (s : List Char) :
    Extends s t (float negative m e s) (Json.float negative m e (s ++ t)) := by
  unfold Json.float
  split
  · exact .ok _ List.suffix_rfl
  · exact .error ..

theorem whole (negative : Bool) (n : Nat) (s : List Char) :
    Extends s t (whole negative n s) (Json.whole negative n (s ++ t)) := by
  unfold Json.whole
  split_ifs
  · exact .ok _ List.suffix_rfl
  · exact float ..
  · exact .ok _ List.suffix_rfl

end Extends

section
variable {t : List Char} (ht : Stops isNumeric t)
include ht

theorem stops_isDigit : Stops isDigit t := ht.mono fun c hc => by simp [isNumeric, hc]

theorem spanDigits_append (s : List Char) :
    spanDigits (s ++ t) = ((spanDigits s).1, (spanDigits s).2 ++ t) := by
  rw [spanDigits, Text.takeWhile_append_stops (stops_isDigit ht),
    Text.dropWhile_append_stops (stops_isDigit ht)]
  rfl

/-! ### The exponent -/

theorem exponentSign_append (s : List Char) :
    exponentSign (s ++ t) = ((exponentSign s).1, (exponentSign s).2 ++ t) := by
  cases s with
  | cons c rest => rw [List.cons_append, exponentSign, exponentSign]; split_ifs <;> rfl
  | nil =>
    cases t with
    | nil => rfl
    | cons c rest =>
      have hc := Text.stops_cons.mp ht
      have hminus : c ≠ '-' := by rintro rfl; exact absurd hc (by decide)
      have hplus : c ≠ '+' := by rintro rfl; exact absurd hc (by decide)
      change exponentSign (c :: rest) = (false, c :: rest)
      rw [exponentSign, if_neg hminus, if_neg hplus]

omit ht in
theorem exponentSign_suffix (s : List Char) : (exponentSign s).2 <:+ s := by
  cases s with
  | nil => exact List.suffix_rfl
  | cons c rest =>
    rw [exponentSign]
    split_ifs
    · exact List.suffix_cons c rest
    · exact List.suffix_cons c rest
    · exact List.suffix_rfl

/-- The digits of an exponent, alone and with more text behind: they fit or do not fit alike. -/
theorem lengthenExponent_append : ∀ (n : Nat) (s : List Char),
    (∃ e rest, rest <:+ s ∧ lengthenExponent n s = .ok (e, rest) ∧
      lengthenExponent n (s ++ t) = .ok (e, rest ++ t)) ∨
    (∃ rest, rest <:+ s ∧ lengthenExponent n s = .error rest ∧
      lengthenExponent n (s ++ t) = .error (rest ++ t))
  | n, [] => by
    refine Or.inl ⟨n, [], List.suffix_rfl, rfl, ?_⟩
    cases t with
    | nil => rfl
    | cons c rest =>
      have hc : isDigit c = false := Text.stops_cons.mp (stops_isDigit ht)
      simp [lengthenExponent, hc]
  | n, d :: rest => by
    rw [List.cons_append, lengthenExponent, lengthenExponent]
    by_cases hd : isDigit d
    · rw [if_pos hd, if_pos hd]
      by_cases hfit : n * 10 + digitValue d < Nat.pow 2 31
      · simp only [if_pos hfit]
        have hrest := lengthenExponent_append (n * 10 + digitValue d) rest
        rcases hrest with ⟨e, left, hs, h, h'⟩ | ⟨left, hs, h, h'⟩
        · exact Or.inl ⟨e, left, hs.trans (List.suffix_cons d rest), h, h'⟩
        · exact Or.inr ⟨left, hs.trans (List.suffix_cons d rest), h, h'⟩
      · simp only [if_neg hfit]
        exact Or.inr ⟨rest, List.suffix_cons d rest, rfl, rfl⟩
    · rw [if_neg hd, if_neg hd]
      exact Or.inl ⟨n, d :: rest, List.suffix_rfl, rfl, rfl⟩

theorem readExponent_extends (negative : Bool) (m : Nat) (scale : Int) (s : List Char) :
    Extends s t (readExponent negative m scale s) (readExponent negative m scale (s ++ t)) := by
  have hsign := exponentSign_suffix s
  rw [readExponent, readExponent, exponentSign_append ht]
  generalize exponentSign s = p at hsign ⊢
  obtain ⟨below, digits⟩ := p
  cases digits with
  | nil =>
    cases t with
    | nil => exact .error ..
    | cons c rest =>
      have hc : isDigit c = false := Text.stops_cons.mp (stops_isDigit ht)
      simp only [List.nil_append, hc, Bool.false_eq_true, if_false]
      exact .error ..
  | cons c rest =>
    have hrest : rest <:+ s := (List.suffix_cons c rest).trans hsign
    simp only [List.cons_append]
    by_cases hc : isDigit c
    · rw [if_pos hc, if_pos hc]
      rcases lengthenExponent_append ht (digitValue c) rest with
        ⟨e, left, hs, h, h'⟩ | ⟨left, hs, h, h'⟩ <;> rw [h, h']
      · exact (Extends.float ..).suffix (hs.trans hrest)
      · simp only [Text.dropWhile_append_stops (stops_isDigit ht)]
        split_ifs
        · exact .error ..
        · exact .ok _ ((List.dropWhile_suffix _).trans (hs.trans hrest))
    · rw [if_neg hc, if_neg hc]
      exact .error ..

/-! ### The parts of a number -/

theorem readScale_extends (negative : Bool) (m : Nat) (scale : Int) (s : List Char) :
    Extends s t (readScale negative m scale s) (readScale negative m scale (s ++ t)) := by
  cases s with
  | cons c rest =>
    rw [List.cons_append, readScale, readScale]
    split_ifs
    · exact (readExponent_extends ht ..).suffix (List.suffix_cons c rest)
    · exact .float negative m scale (c :: rest)
  | nil =>
    cases t with
    | nil => exact .float ..
    | cons c rest =>
      have hc := Text.stops_cons.mp ht
      have he : ¬(c = 'e' ∨ c = 'E') := by rintro (rfl | rfl) <;> exact absurd hc (by decide)
      rw [List.nil_append, readScale, readScale, if_neg he]
      exact .float negative m scale []

theorem readFraction_extends (negative : Bool) (m : Nat) (scale : Int) (s : List Char) :
    Extends s t (readFraction negative m scale s) (readFraction negative m scale (s ++ t)) := by
  have hspan : (spanDigits s).2 <:+ s := List.dropWhile_suffix _
  rw [readFraction, readFraction, spanDigits_append ht]
  generalize spanDigits s = p at hspan ⊢
  obtain ⟨digits, rest⟩ := p
  cases digits with
  | nil =>
    simp only [List.isEmpty_nil, if_true]
    split_ifs <;> exact .error ..
  | cons d digits => exact (readScale_extends ht ..).suffix hspan

theorem readAfterWhole_extends (negative : Bool) (m left : Nat) (s : List Char) :
    Extends s t (readAfterWhole negative m left s) (readAfterWhole negative m left (s ++ t)) := by
  cases s with
  | cons c rest =>
    rw [List.cons_append, readAfterWhole, readAfterWhole]
    split_ifs
    · exact (readFraction_extends ht ..).suffix (List.suffix_cons c rest)
    · exact .whole negative m (c :: rest)
    · exact readScale_extends ht negative m left (c :: rest)
  | nil =>
    cases t with
    | nil =>
      rw [List.append_nil, readAfterWhole]
      split_ifs
      · exact .whole negative m []
      · exact .float negative m left []
    | cons c rest =>
      have hc := Text.stops_cons.mp ht
      have hpoint : c ≠ '.' := by rintro rfl; exact absurd hc (by decide)
      have he : c ≠ 'e' := by rintro rfl; exact absurd hc (by decide)
      have hE : c ≠ 'E' := by rintro rfl; exact absurd hc (by decide)
      rw [List.nil_append, readAfterWhole, readAfterWhole, if_neg hpoint]
      by_cases hleft : left = 0
      · rw [if_pos hleft, if_pos ⟨hleft, he, hE⟩]
        exact .whole negative m []
      · rw [if_neg hleft, if_neg fun h => hleft h.1]
        exact readScale_extends ht negative m left []

theorem head?_any_isDigit_append (s : List Char) :
    (s ++ t).head?.any isDigit = s.head?.any isDigit := by
  cases s with
  | cons c rest => rfl
  | nil =>
    cases t with
    | nil => rfl
    | cons c rest => exact Text.stops_cons.mp (stops_isDigit ht)

theorem readNumber_extends (negative : Bool) (s : List Char) :
    Extends s t (readNumber negative s) (readNumber negative (s ++ t)) := by
  cases s with
  | nil =>
    cases t with
    | nil => exact .error ..
    | cons c rest =>
      have hc : isDigit c = false := Text.stops_cons.mp (stops_isDigit ht)
      have hzero : c ≠ '0' := by rintro rfl; exact absurd hc (by decide)
      simp only [List.nil_append, readNumber, if_neg hzero, hc, Bool.false_eq_true, if_false]
      exact .error ..
  | cons c rest =>
    have hspan := spanDigits_append ht (c :: rest)
    have hleft : (spanDigits (c :: rest)).2 <:+ c :: rest := List.dropWhile_suffix _
    rw [List.cons_append] at hspan ⊢
    rw [readNumber, readNumber, head?_any_isDigit_append ht, hspan]
    split_ifs
    · exact .error ..
    · exact (readAfterWhole_extends ht ..).suffix (List.suffix_cons c rest)
    · exact (readAfterWhole_extends ht ..).suffix hleft
    · exact .error ..

/-- What is read of a number does not depend on what stands behind its characters. -/
theorem readNumeral_extends (s : List Char) :
    Extends s t (readNumeral s) (readNumeral (s ++ t)) := by
  unfold readNumeral
  split
  · exact (readNumber_extends ht ..).suffix (List.suffix_cons ..)
  · next hs =>
    split
    · next rest heq =>
      -- the minus sign cannot come from behind the characters of numbers
      cases s with
      | nil =>
        rw [List.nil_append] at heq
        subst heq
        exact absurd (Text.stops_cons.mp ht) (by decide)
      | cons c s =>
        rw [List.cons_append, List.cons.injEq] at heq
        exact absurd (by rw [heq.1]) (hs s)
    · exact readNumber_extends ht ..

/-! ### Literals -/

/-- A literal is read to its end before any text that ends it. -/
theorem readNumeral_append {n : Number} {s : List Char} (h : Numeral n s) :
    readNumeral (s ++ t) = .ok (n, t) := by
  have hext := readNumeral_extends ht s
  rw [h] at hext
  generalize readNumeral (s ++ t) = y at hext ⊢
  cases hext with
  | ok _ _ => rfl

/-- What is read as a number, up to a text that ends it, is a literal. -/
theorem exists_numeral_of_readNumeral {n : Number} {s : List Char}
    (h : readNumeral s = .ok (n, t)) : ∃ lit, s = lit ++ t ∧ Numeral n lit := by
  have hstop : Stops isNumeric (s.dropWhile isNumeric) := Text.stops_dropWhile s
  have hext := readNumeral_extends hstop (s.takeWhile isNumeric)
  rw [List.takeWhile_append_dropWhile, h] at hext
  generalize hx : readNumeral (s.takeWhile isNumeric) = x at hext
  cases hext with
  | @ok _ rest hsuffix =>
    -- what is left over of the numeric characters would start the text behind
    cases rest with
    | nil => exact ⟨_, (List.takeWhile_append_dropWhile).symm, hx⟩
    | cons c rest =>
      have hc : isNumeric c = true := by
        have hmem := hsuffix.subset List.mem_cons_self
        exact List.mem_takeWhile_imp hmem
      rw [List.cons_append, Text.stops_cons, hc] at ht
      cases ht

end

theorem Numeral.forall_isNumeric {n : Number} {s : List Char} (h : Numeral n s) :
    ∀ c ∈ s, isNumeric c = true := by
  have hext := readNumeral_extends (Text.stops_dropWhile s) (s.takeWhile isNumeric)
  rw [List.takeWhile_append_dropWhile, h] at hext
  generalize readNumeral (s.takeWhile isNumeric) = x at hext
  generalize hy : (Except.ok (n, []) : Except Fault (Number × List Char)) = y at hext
  cases hext with
  | error f g => cases hy
  | @ok _ rest _ =>
    rw [Except.ok.injEq, Prod.mk.injEq] at hy
    have hdrop := (List.append_eq_nil_iff.mp hy.2.symm).2
    exact List.dropWhile_eq_nil_iff.mp hdrop

/-- A literal starts with a digit or a minus sign. -/
theorem Numeral.head {n : Number} {s : List Char} (h : Numeral n s) :
    ∃ c rest, s = c :: rest ∧ (c = '-' ∨ isDigit c = true) := by
  unfold Numeral readNumeral at h
  split at h
  · next rest => exact ⟨'-', rest, rfl, Or.inl rfl⟩
  · cases s with
    | nil => cases h
    | cons c rest =>
      refine ⟨c, rest, rfl, Or.inr ?_⟩
      by_contra hc
      have hzero : c ≠ '0' := by rintro rfl; exact hc (by decide)
      rw [readNumber, if_neg hzero, if_neg hc] at h
      cases h

end Issuance.Json

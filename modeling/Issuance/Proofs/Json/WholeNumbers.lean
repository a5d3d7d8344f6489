import Issuance.Proofs.Json.Digits

/-! # Whole numbers are read back

    A number in a value that was read from a text stems from a literal of the text. One without
    point and exponent gives a whole number of 64 bits, and every such number is read back from its
    digits. So only the magnitudes of a document can change when it is printed and read again. -/

namespace Issuance.Json

/-! ### From the digits to the number -/

theorem le_ofDigitChars : ∀ (s : List Char) (n : Nat), n ≤ Nat.ofDigitChars 10 s n
  | [], n => le_rfl
  | d :: rest, n => by
    rw [Nat.ofDigitChars_cons]
    exact le_trans (by omega) (le_ofDigitChars rest _)

/-- Digits whose number fits 64 bits are all taken into the significand. -/
theorem lengthen_eq : ∀ {s : List Char} {n : Nat}, Nat.ofDigitChars 10 s n < Nat.pow 2 64 →
    lengthen n s = (Nat.ofDigitChars 10 s n, [])
  | [], n, _ => rfl
  | d :: rest, n, h => by
    have hstep : Nat.ofDigitChars 10 (d :: rest) n =
        Nat.ofDigitChars 10 rest (n * 10 + digitValue d) := by
      rw [Nat.ofDigitChars_cons, Nat.mul_comm]
      rfl
    rw [hstep] at h ⊢
    rw [lengthen, if_pos ((le_ofDigitChars rest _).trans_lt h)]
    exact lengthen_eq h

/-- The digits of a number above zero start with another digit than zero. -/
theorem exists_digitsOf_eq_cons {n : Nat} (hn : 0 < n) :
    ∃ c rest, digitsOf n = c :: rest ∧ c ≠ '0' := by
  induction n using Nat.strongRecOn with
  | ind n ih =>
    rw [digitsOf]
    rcases Nat.lt_or_ge n 10 with hlt | hge
    · rw [Nat.toDigits_of_lt_base hlt]
      refine ⟨_, _, rfl, ?_⟩
      interval_cases n <;> decide
    · rw [Nat.toDigits_of_base_le (by decide) hge]
      obtain ⟨c, rest, hdigits, hc⟩ := ih (n / 10) (by omega) (by omega)
      rw [digitsOf] at hdigits
      rw [hdigits]
      exact ⟨c, _, rfl, hc⟩

theorem spanDigits_digitsOf (n : Nat) : spanDigits (digitsOf n) = (digitsOf n, []) := by
  have hall : ∀ c ∈ digitsOf n, isDigit c = true := fun _ => isDigit_of_mem_digitsOf
  rw [spanDigits, List.takeWhile_eq_self_iff.mpr hall, List.dropWhile_eq_nil_iff.mpr hall]

theorem readNumber_digitsOf (negative : Bool) {n : Nat} (hn : n < Nat.pow 2 64) :
    readNumber negative (digitsOf n) = whole negative n [] := by
  rcases Nat.eq_zero_or_pos n with rfl | hpos
  · rfl
  · obtain ⟨c, rest, hdigits, hc⟩ := exists_digitsOf_eq_cons hpos
    have hdigit : isDigit c = true := isDigit_of_mem_digitsOf (hdigits ▸ List.mem_cons_self)
    have hvalue : Nat.ofDigitChars 10 (digitsOf n) 0 = n := Nat.ofDigitChars_ten_toDigits
    have hspan := spanDigits_digitsOf n
    have hlengthen : lengthen 0 (digitsOf n) = (n, []) := by
      rw [lengthen_eq (hvalue.symm ▸ hn), hvalue]
    rw [hdigits] at hspan hlengthen ⊢
    rw [readNumber, if_neg hc, if_pos hdigit, hspan]
    simp only [hlengthen]
    rfl

/-! ### Numbers of 64 bits -/

/-- Whether a number is held by 64 bits: a whole one below zero by signed ones, another whole one by
    unsigned ones. -/
def Number.Fits64 : Number → Prop
  | .whole n => -(Nat.pow 2 63 : Int) ≤ n ∧ n < Nat.pow 2 64
  | .float _ _ => True

theorem numeral_integerText {n : Int} (h : (Number.whole n).Fits64) :
    Numeral (.whole n) (integerText n) := by
  obtain ⟨hlow, hhigh⟩ := h
  cases n with
  | ofNat n =>
    have hread := readNumber_digitsOf false (Int.ofNat_lt.mp hhigh)
    change readNumeral (digitsOf n) = _
    rw [readNumeral]
    · exact hread
    · intro rest hminus
      exact not_mem_digitsOf (by decide) n (hminus ▸ List.mem_cons_self)
  | negSucc n =>
    have hsmall : n + 1 ≤ Nat.pow 2 63 := by omega
    have hread := readNumber_digitsOf true (hsmall.trans_lt (by decide))
    change readNumber true (digitsOf (n + 1)) = _
    rw [hread, whole, if_pos rfl, if_pos ⟨Nat.succ_pos n, hsmall⟩]
    rfl

/-- A number is read back if its written form is a literal of it. -/
theorem readsBack_of_numeral {n : Number} (h : Numeral n n.text) : n.ReadsBack :=
  parse_eq_ok_iff.mpr ⟨.number n, ⟨[], _, [], blank_nil, .number h, blank_nil, by simp⟩,
    Nat.zero_le _, rfl⟩

theorem Number.Fits64.readsBack {n : Int} (h : (Number.whole n).Fits64) :
    (Number.whole n).ReadsBack :=
  readsBack_of_numeral (numeral_integerText h)

/-! ### From the literal to the number -/

/-- A reading that gives no number but one of 64 bits. -/
inductive Gives64 : Except Fault (Number × List Char) → Prop
  | ok {n : Number} (rest : List Char) : n.Fits64 → Gives64 (.ok (n, rest))
  | error (f : Fault) : Gives64 (.error f)

namespace Gives64

variable {negative : Bool} {n : Nat} {s : List Char}

theorem float (negative : Bool) (n : Nat) (e : Int) (s : List Char) :
    Gives64 (Json.float negative n e s) := by
  unfold Json.float
  split
  · exact .ok _ trivial
  · exact .error _

theorem readExponent (negative : Bool) (n : Nat) (scale : Int) (s : List Char) :
    Gives64 (Json.readExponent negative n scale s) := by
  unfold Json.readExponent
  generalize exponentSign s = sign
  obtain ⟨below, digits⟩ := sign
  cases digits with
  | nil => exact .error _
  | cons c rest =>
    by_cases hc : isDigit c = true
    · simp only [if_pos hc]
      split
      · exact float ..
      · split_ifs
        · exact .error _
        · exact .ok _ trivial
    · simp only [if_neg hc]
      exact .error _

theorem readScale (negative : Bool) (n : Nat) (scale : Int) (s : List Char) :
    Gives64 (Json.readScale negative n scale s) := by
  unfold Json.readScale
  split
  · exact float ..
  · split_ifs
    · exact readExponent ..
    · exact float ..

theorem readFraction (negative : Bool) (n : Nat) (scale : Int) (s : List Char) :
    Gives64 (Json.readFraction negative n scale s) := by
  unfold Json.readFraction
  dsimp only
  split_ifs
  · exact .error _
  · exact .error _
  · exact readScale ..

theorem whole (hn : n < Nat.pow 2 64) : Gives64 (Json.whole negative n s) := by
  unfold Json.whole
  split_ifs with _ hsmall
  · have hbound : n ≤ Nat.pow 2 63 := hsmall.2
    refine .ok s ⟨by omega, by omega⟩
  · exact float ..
  · exact .ok s ⟨by omega, by omega⟩

theorem readAfterWhole (hn : n < Nat.pow 2 64) (left : Nat) (s : List Char) :
    Gives64 (Json.readAfterWhole negative n left s) := by
  unfold Json.readAfterWhole
  split
  · split_ifs
    · exact whole hn
    · exact float ..
  · split_ifs
    · exact readFraction ..
    · exact whole hn
    · exact readScale ..

theorem lengthen_lt : ∀ {s : List Char} {n : Nat}, n < Nat.pow 2 64 →
    (lengthen n s).1 < Nat.pow 2 64
  | [], _, h => h
  | d :: rest, n, h => by
    rw [lengthen]
    split_ifs with hfit
    · exact lengthen_lt hfit
    · exact h

theorem readNumber (negative : Bool) (s : List Char) : Gives64 (Json.readNumber negative s) := by
  unfold Json.readNumber
  split
  · exact .error _
  · split_ifs
    · exact .error _
    · exact readAfterWhole (n := 0) (by decide) ..
    · exact readAfterWhole (lengthen_lt (n := 0) (by decide)) ..
    · exact .error _

end Gives64

/-- A literal gives a number of 64 bits. -/
theorem Numeral.fits64 {n : Number} {s : List Char} (h : Numeral n s) : n.Fits64 := by
  have hgives : ∀ {x : Except Fault (Number × List Char)}, Gives64 x → x = .ok (n, []) →
      n.Fits64 := by
    rintro _ (⟨_, hn⟩ | _) ⟨⟩
    exact hn
  unfold Numeral readNumeral at h
  split at h
  · exact hgives (Gives64.readNumber ..) h
  · exact hgives (Gives64.readNumber ..) h

/-! ### From the text to its literals -/

theorem Derives.exists_numeral {σ : Spelling} {ph : Phrase} {s : List Char} (h : Derives σ ph s)
    {n : Number} (hn : .number n ∈ ph.leaves) : ∃ lit, Numeral n lit := by
  induction h with
  | null => cases hn
  | bool b => cases hn
  | @number m s hm =>
    cases List.mem_singleton.mp hn
    exact ⟨s, hm⟩
  | string _ => cases List.mem_singleton.mp hn
  | array _ ih => exact ih hn
  | object _ ih => exact ih hn
  | lastItem _ => cases hn
  | item _ _ _ ihv ihvs => exact (List.mem_append.mp hn).elim ihv ihvs
  | lastMember _ => cases hn
  | member _ _ _ _ _ _ ihv ihms =>
    rcases List.mem_cons.mp hn with h | h
    · cases h
    · exact (List.mem_append.mp h).elim ihv ihms

variable {leaf : Leaf} {name : String} {v : Json}

theorem mem_memberLeaves_insert : ∀ {o : Object}, leaf ∈ memberLeaves (o.insert name v) →
    leaf = .name name ∨ leaf ∈ v.leaves ∨ leaf ∈ memberLeaves o
  | [], h => by
    rw [Object.insert, memberLeaves, memberLeaves, List.append_nil] at h
    exact (List.mem_cons.mp h).imp_right .inl
  | (n, w) :: rest, h => by
    rw [Object.insert] at h
    rw [memberLeaves]
    split_ifs at h with hname
    · subst hname
      rw [memberLeaves] at h
      simp only [List.cons_append, List.mem_cons, List.mem_append] at h ⊢
      tauto
    · rw [memberLeaves] at h
      simp only [List.cons_append, List.mem_cons, List.mem_append] at h ⊢
      rcases h with h | h | h
      · exact .inr (.inr (.inl h))
      · exact .inr (.inr (.inr (.inl h)))
      · rcases mem_memberLeaves_insert h with h | h | h
        · exact .inl h
        · exact .inr (.inl h)
        · exact .inr (.inr (.inr (.inr h)))

theorem mem_memberLeaves_overlay : ∀ {upper base : Object},
    leaf ∈ memberLeaves (Object.overlay base upper) →
      leaf ∈ memberLeaves base ∨ leaf ∈ memberLeaves upper
  | [], _, h => .inl h
  | (n, w) :: rest, base, h => by
    have hrest : leaf ∈ memberLeaves (Object.overlay (base.insert n w) rest) := h
    rw [memberLeaves, List.cons_append, List.mem_cons, List.mem_append]
    rcases mem_memberLeaves_overlay hrest with h | h
    · have hinsert := mem_memberLeaves_insert h
      tauto
    · exact .inr (.inr (.inr h))

mutual

/-- Merging brings in no leaf. -/
theorem mem_leaves_of_merged : ∀ {v : Json}, leaf ∈ v.merged.leaves → leaf ∈ v.leaves
  | .null, h => h
  | .bool _, h => h
  | .number _, h => h
  | .string _, h => h
  | .array items, h => mem_itemLeaves_of_merged h
  | .object members, h => by
    rcases mem_memberLeaves_overlay h with h | h
    · cases h
    · exact mem_memberLeaves_of_merged h

theorem mem_itemLeaves_of_merged : ∀ {items : List Json}, leaf ∈ itemLeaves (mergedItems items) →
    leaf ∈ itemLeaves items
  | [], h => h
  | v :: rest, h => by
    rw [itemLeaves, List.mem_append]
    exact (List.mem_append.mp h).imp mem_leaves_of_merged mem_itemLeaves_of_merged

theorem mem_memberLeaves_of_merged : ∀ {members : List (String × Json)},
    leaf ∈ memberLeaves (mergedMembers members) → leaf ∈ memberLeaves members
  | [], h => h
  | (n, v) :: rest, h => by
    rw [memberLeaves, List.cons_append, List.mem_cons, List.mem_append]
    refine (List.mem_cons.mp h).imp_right fun h => ?_
    exact (List.mem_append.mp h).imp mem_leaves_of_merged mem_memberLeaves_of_merged

end

/-- A whole number in a value that was read from a text is read back from its digits. -/
theorem readsBack_of_parse {text : List Char} {v : Json} (h : parse text = .ok v) {n : Int}
    (hn : .number (.whole n) ∈ v.leaves) : (Number.whole n).ReadsBack := by
  obtain ⟨raw, ⟨w, s, w', -, hs, -, -⟩, -, rfl⟩ := parse_eq_ok_iff.mp h
  obtain ⟨lit, hlit⟩ := hs.exists_numeral (mem_leaves_of_merged hn)
  exact hlit.fits64.readsBack

end Issuance.Json

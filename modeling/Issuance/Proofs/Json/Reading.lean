import Issuance.Proofs.Json.Grammar

/-! # Reading is grammar

    The reader takes exactly the texts of the grammar, up to the depth it allows, and gives the
    value with repeated names merged. A value is read with any text behind it that does not go on
    with a number, so the two directions are proved for stretches of a longer text, and a whole text
    is the stretch before its end. -/

namespace Issuance.Json

open Text (Stops)

section
variable {w t rest : List Char} {c : Char} {first : Bool}

/-! ### Between the tokens -/

theorem skipSpace_append (hw : Blank w) (t : List Char) : skipSpace (w ++ t) = skipSpace t :=
  List.dropWhile_append_of_pos hw

theorem skipSpace_cons (hc : isSpace c = false) (t : List Char) : skipSpace (c :: t) = c :: t :=
  List.dropWhile_cons_of_neg (by simp [hc])

theorem nextItem_lead (hw : Lead first w) (hspace : isSpace c = false) (hc : c ≠ ']')
    (t : List Char) : nextItem first (w ++ c :: t) = .ok (.more (c :: t)) := by
  cases hw with
  | first hw => simp [nextItem, skipSpace_append hw, skipSpace_cons hspace, hc]
  | next hw hw' =>
    have hcomma : isSpace ',' = false := by decide
    simp [nextItem, skipSpace_append hw, skipSpace_append hw', skipSpace_cons hspace,
      skipSpace_cons hcomma, hc]

theorem nextItem_end (hw : Blank w) (t : List Char) :
    nextItem first (w ++ ']' :: t) = .ok (.done t) := by
  have hend : isSpace ']' = false := by decide
  simp [nextItem, skipSpace_append hw, skipSpace_cons hend]

theorem nextName_lead (hw : Lead first w) (t : List Char) :
    nextName first (w ++ '"' :: t) = .ok (.more t) := by
  have hquote : isSpace '"' = false := by decide
  cases hw with
  | first hw => simp [nextName, skipSpace_append hw, skipSpace_cons hquote]
  | next hw hw' =>
    have hcomma : isSpace ',' = false := by decide
    simp [nextName, skipSpace_append hw, skipSpace_append hw', skipSpace_cons hquote,
      skipSpace_cons hcomma]

theorem nextName_end (hw : Blank w) (t : List Char) :
    nextName first (w ++ '}' :: t) = .ok (.done t) := by
  have hend : isSpace '}' = false := by decide
  simp [nextName, skipSpace_append hw, skipSpace_cons hend]

theorem readColon_append (hw : Blank w) (t : List Char) : readColon (w ++ ':' :: t) = .ok t := by
  have hcolon : isSpace ':' = false := by decide
  simp [readColon, skipSpace_append hw, skipSpace_cons hcolon]

theorem readKeyword_append : ∀ word t : List Char, readKeyword word (word ++ t) = .ok t
  | [], _ => rfl
  | k :: word, t => by
    rw [List.cons_append, readKeyword, if_pos rfl, readKeyword_append word t]

end

/-! ### What the grammar gives is read -/

/-- A phrase is read where its text stands, with steps for each of its characters. -/
def IsRead (s : List Char) : Phrase → Prop
  | .value v => ∀ steps depth t, Stops isNumeric t → v.depth ≤ depth → s.length ≤ steps →
      readValue steps depth (s ++ t) = .ok (v.merged, t)
  | .items first vs => ∀ steps depth t, itemDepth vs ≤ depth → s.length ≤ steps →
      readItems steps depth first (s ++ t) = .ok (mergedItems vs, t)
  | .members first ms => ∀ steps depth t, memberDepth ms ≤ depth → s.length ≤ steps →
      readMembers steps depth first (s ++ t) = .ok (mergedMembers ms, t)

theorem readValue_numeral {n : Number} {s : List Char} (h : Numeral n s) {t : List Char}
    (ht : Stops isNumeric t) (steps depth : Nat) :
    readValue (steps + 1) depth (s ++ t) = .ok (.number n, t) := by
  have hread := readNumeral_append ht h
  obtain ⟨c, rest, rfl, rfl | hc⟩ := h.head
  · have hspace : isSpace '-' = false := by decide
    rw [List.cons_append] at hread ⊢
    simp only [readNumeral] at hread
    simp [readValue, skipSpace_cons hspace, hread, Except.map]
  · have hne : ∀ d : Char, isDigit d = false → c ≠ d := by
      rintro d hd rfl
      rw [hc] at hd
      cases hd
    have hnum : readNumber false (c :: rest ++ t) = .ok (n, t) := by
      rwa [readNumeral] at hread
      intro r hr
      exact hne '-' (by decide) (List.cons.inj hr).1
    rw [List.cons_append] at hnum ⊢
    simp [readValue, skipSpace_cons (isSpace_of_isDigit hc), hne 'n' (by decide),
      hne 't' (by decide), hne 'f' (by decide), hne '"' (by decide), hne '-' (by decide), hc, hnum,
      Except.map]

theorem readValue_null (steps depth : Nat) (t : List Char) :
    readValue (steps + 1) depth ("null".toList ++ t) = .ok (.null, t) := by
  have hword := readKeyword_append "ull".toList t
  have hspace : isSpace 'n' = false := by decide
  simp at hword
  simp [readValue, skipSpace_cons hspace, hword, Except.map]

theorem readValue_bool (steps depth : Nat) (t : List Char) : ∀ b : Bool,
    readValue (steps + 1) depth (boolText b ++ t) = .ok (.bool b, t)
  | true => by
    have hword := readKeyword_append "rue".toList t
    have hspace : isSpace 't' = false := by decide
    simp at hword
    simp [boolText, readValue, skipSpace_cons hspace, hword, Except.map]
  | false => by
    have hword := readKeyword_append "alse".toList t
    have hspace : isSpace 'f' = false := by decide
    simp at hword
    simp [boolText, readValue, skipSpace_cons hspace, hword, Except.map]

theorem readValue_blank {w : List Char} (hw : Blank w) (steps depth : Nat) (t : List Char) :
    readValue (steps + 1) depth (w ++ t) = readValue (steps + 1) depth t := by
  simp only [readValue, skipSpace_append hw]

theorem isRead_item {first : Bool} {v : Json} {vs : List Json} {w s t : List Char}
    (hw : Lead first w) (hv : Derives .Accepted (.value v) s)
    (hvs : Derives .Accepted (.items false vs) t) (ihv : IsRead s (.value v))
    (ihvs : IsRead t (.items false vs)) : IsRead (w ++ (s ++ t)) (.items first (v :: vs)) := by
  rintro (_ | steps) d u hdepth hsteps
  · simp [hv.ne_nil] at hsteps
  · obtain ⟨c, s', hs, hspace, hc⟩ := hv.value_head
    have htpos := List.length_pos_iff.mpr hvs.ne_nil
    have hspos := List.length_pos_iff.mpr hv.ne_nil
    simp only [List.length_append] at hsteps
    simp only [itemDepth, max_le_iff] at hdepth
    have hvalue := ihv steps d (t ++ u) (hvs.items_stops u) hdepth.1 (by omega)
    have hitems := ihvs steps d u hdepth.2 (by omega)
    have hnext := nextItem_lead hw hspace hc (s' ++ (t ++ u))
    rw [← List.cons_append, ← hs] at hnext
    simp only [List.append_assoc]
    rw [readItems, hnext]
    simp only [hvalue, hitems, Except.map, mergedItems]

theorem isRead_member {first : Bool} {v : Json} {ms : List (String × Json)}
    {w name lit w₁ w₂ s t : List Char} (hw : Lead first w) (hlit : Literal .Accepted name lit)
    (hw₁ : Blank w₁) (hw₂ : Blank w₂) (hms : Derives .Accepted (.members false ms) t)
    (ihv : IsRead s (.value v)) (ihms : IsRead t (.members false ms)) :
    IsRead (w ++ '"' :: (lit ++ '"' :: (w₁ ++ ':' :: (w₂ ++ (s ++ t)))))
      (.members first ((String.ofList name, v) :: ms)) := by
  rintro (_ | _ | steps) d u hdepth hsteps
  · simp at hsteps
  · simp at hsteps
    omega
  · have htpos := List.length_pos_iff.mpr hms.ne_nil
    simp only [List.length_append, List.length_cons] at hsteps
    simp only [memberDepth, max_le_iff] at hdepth
    have hvalue := ihv (steps + 1) d (t ++ u) (hms.members_stops u) hdepth.1 (by omega)
    have hmembers := ihms (steps + 1) d u hdepth.2 (by omega)
    have hname := nextName_lead hw (lit ++ '"' :: (w₁ ++ ':' :: (w₂ ++ (s ++ (t ++ u)))))
    have hstring := readString_literal hlit (w₁ ++ ':' :: (w₂ ++ (s ++ (t ++ u))))
    have hcolon := readColon_append hw₁ (w₂ ++ (s ++ (t ++ u)))
    have hblank := readValue_blank hw₂ steps d (s ++ (t ++ u))
    simp only [List.append_assoc, List.cons_append]
    rw [readMembers, hname]
    simp only [hstring, hcolon, hblank, hvalue, hmembers, Except.map, mergedMembers]

/-- Whatever the grammar derives is read, and read as the value it stands for. -/
theorem isRead_of_derives {ph : Phrase} {s : List Char} (h : Derives .Accepted ph s) :
    IsRead s ph := by
  induction h with
  | null =>
    rintro (_ | steps) d t _ _ hsteps
    · simp at hsteps
    · exact readValue_null steps d t
  | bool b =>
    rintro (_ | steps) d t _ _ hsteps
    · cases b <;> simp [boolText] at hsteps
    · exact readValue_bool steps d t b
  | number hn =>
    rintro (_ | steps) d t ht _ hsteps
    · obtain ⟨c, rest, rfl, _⟩ := hn.head
      simp at hsteps
    · exact readValue_numeral hn ht steps d
  | string hlit =>
    rintro (_ | steps) d t _ _ hsteps
    · simp at hsteps
    · have hspace : isSpace '"' = false := by decide
      simp [readValue, skipSpace_cons hspace, readString_literal hlit, Except.map, merged]
  | array _ ih =>
    rintro (_ | steps) (_ | d) t _ hdepth hsteps
    · simp at hsteps
    · simp at hsteps
    · simp [Json.depth] at hdepth
    · have hspace : isSpace '[' = false := by decide
      have hitems := ih steps d t (by simpa [Json.depth] using hdepth) (by simpa using hsteps)
      simp [readValue, skipSpace_cons hspace, isDigit, hitems, Except.map, merged]
  | object _ ih =>
    rintro (_ | steps) (_ | d) t _ hdepth hsteps
    · simp at hsteps
    · simp at hsteps
    · simp [Json.depth] at hdepth
    · have hspace : isSpace '{' = false := by decide
      have hmembers := ih steps d t (by simpa [Json.depth] using hdepth) (by simpa using hsteps)
      simp [readValue, skipSpace_cons hspace, isDigit, hmembers, Except.map, merged]
  | lastItem hw =>
    rintro (_ | steps) d t _ hsteps
    · simp at hsteps
    · simp [readItems, nextItem_end hw, mergedItems]
  | item hw hv hvs ihv ihvs => exact isRead_item hw hv hvs ihv ihvs
  | lastMember hw =>
    rintro (_ | steps) d t _ hsteps
    · simp at hsteps
    · simp [readMembers, nextName_end hw, mergedMembers]
  | member hw hlit hw₁ hw₂ _ hms ihv ihms => exact isRead_member hw hlit hw₁ hw₂ hms ihv ihms

/-! ### What is read is given by the grammar -/

theorem Lead.append_blank {first : Bool} {w w' : List Char} (h : Lead first w) (hw' : Blank w') :
    Lead first (w ++ w') := by
  have hjoin : ∀ {a : List Char}, Blank a → Blank (a ++ w') := by
    intro a ha c hc
    exact (List.mem_append.mp hc).elim (ha c) (hw' c)
  cases h with
  | first hw => exact .first (hjoin hw)
  | next hw hw'' =>
    rw [List.append_assoc, List.cons_append]
    exact .next hw (hjoin hw'')

theorem exists_blank_of_skipSpace {s t : List Char} (h : skipSpace s = t) :
    ∃ w, Blank w ∧ s = w ++ t :=
  ⟨s.takeWhile isSpace, fun _ hc => List.mem_takeWhile_imp hc,
    by rw [← h, skipSpace, List.takeWhile_append_dropWhile]⟩

theorem map_eq_ok {ε α β : Type} {x : Except ε α} {f : α → β} {b : β} (h : x.map f = .ok b) :
    ∃ a, x = .ok a ∧ f a = b := by
  cases x with
  | error e => cases h
  | ok a => exact ⟨a, rfl, by injection h⟩

theorem bind_eq_ok {ε α β : Type} {x : Except ε α} {f : α → Except ε β} {b : β}
    (h : x.bind f = .ok b) : ∃ a, x = .ok a ∧ f a = .ok b := by
  cases x with
  | error e => cases h
  | ok a => exact ⟨a, rfl, h⟩

section
variable {first : Bool} {s rest : List Char}

theorem exists_end_of_nextItem (h : nextItem first s = .ok (.done rest)) :
    ∃ w, Blank w ∧ s = w ++ ']' :: rest := by
  rw [nextItem] at h
  split at h
  · cases h
  · next hskip =>
    obtain ⟨w, hw, rfl⟩ := exists_blank_of_skipSpace hskip
    split_ifs at h with hend
    · subst hend; cases h; exact ⟨w, hw, rfl⟩
    · cases h
    · split at h
      · cases h
      · split_ifs at h; cases h

theorem exists_lead_of_nextItem (h : nextItem first s = .ok (.more rest)) :
    ∃ w, Lead first w ∧ s = w ++ rest := by
  rw [nextItem] at h
  split at h
  · cases h
  · next hskip =>
    obtain ⟨w, hw, rfl⟩ := exists_blank_of_skipSpace hskip
    split_ifs at h with hend hfirst hcomma
    · cases h
    · cases h; exact ⟨w, hfirst ▸ .first hw, rfl⟩
    · subst hcomma
      rw [Bool.not_eq_true] at hfirst
      split at h
      · cases h
      · next hskip' =>
        obtain ⟨w', hw', rfl⟩ := exists_blank_of_skipSpace hskip'
        split_ifs at h
        cases h
        exact ⟨w ++ ',' :: w', hfirst ▸ .next hw hw', by simp⟩

theorem exists_end_of_nextName (h : nextName first s = .ok (.done rest)) :
    ∃ w, Blank w ∧ s = w ++ '}' :: rest := by
  rw [nextName] at h
  split at h
  · cases h
  · next hskip =>
    obtain ⟨w, hw, rfl⟩ := exists_blank_of_skipSpace hskip
    split_ifs at h with hend
    · subst hend; cases h; exact ⟨w, hw, rfl⟩
    · cases h
    · split at h
      · cases h
      · split_ifs at h; cases h

theorem exists_lead_of_nextName (h : nextName first s = .ok (.more rest)) :
    ∃ w, Lead first w ∧ s = w ++ '"' :: rest := by
  rw [nextName] at h
  split at h
  · cases h
  · next hskip =>
    obtain ⟨w, hw, rfl⟩ := exists_blank_of_skipSpace hskip
    split_ifs at h with hend hfirst hquote hcomma
    · cases h
    · subst hquote; cases h; exact ⟨w, hfirst ▸ .first hw, rfl⟩
    · subst hcomma
      rw [Bool.not_eq_true] at hfirst
      split at h
      · cases h
      · next hskip' =>
        obtain ⟨w', hw', rfl⟩ := exists_blank_of_skipSpace hskip'
        split_ifs at h with hquote
        subst hquote
        cases h
        exact ⟨w ++ ',' :: w', hfirst ▸ .next hw hw', by simp⟩

theorem exists_blank_of_readColon (h : readColon s = .ok rest) :
    ∃ w, Blank w ∧ s = w ++ ':' :: rest := by
  rw [readColon] at h
  split at h
  · cases h
  · next hskip =>
    obtain ⟨w, hw, rfl⟩ := exists_blank_of_skipSpace hskip
    split_ifs at h with hcolon
    subst hcolon
    cases h
    exact ⟨w, hw, rfl⟩

theorem eq_append_of_readKeyword : ∀ {word s : List Char}, readKeyword word s = .ok rest →
    s = word ++ rest
  | [], _, h => by cases h; rfl
  | _ :: _, [], h => by cases h
  | k :: word, c :: s, h => by
    rw [readKeyword] at h
    split_ifs at h with hc
    rw [hc, eq_append_of_readKeyword h, List.cons_append]

end

/-- A value that is read within so many steps was derived, behind white space. -/
def ValuesDerived (steps : Nat) : Prop :=
  ∀ depth u v rest, readValue steps depth u = .ok (v, rest) → Stops isNumeric rest →
    ∃ w s raw, Blank w ∧ u = w ++ (s ++ rest) ∧ Derives .Accepted (.value raw) s ∧
      raw.merged = v ∧ raw.depth ≤ depth

/-- Items that are read within so many steps were derived. Their bracket ends them, so nothing is
    asked of what follows. -/
def ItemsDerived (steps : Nat) : Prop :=
  ∀ depth first u vs rest, readItems steps depth first u = .ok (vs, rest) →
    ∃ s raw, u = s ++ rest ∧ Derives .Accepted (.items first raw) s ∧ mergedItems raw = vs ∧
      itemDepth raw ≤ depth

/-- Members that are read within so many steps were derived. -/
def MembersDerived (steps : Nat) : Prop :=
  ∀ depth first u ms rest, readMembers steps depth first u = .ok (ms, rest) →
    ∃ s raw, u = s ++ rest ∧ Derives .Accepted (.members first raw) s ∧ mergedMembers raw = ms ∧
      memberDepth raw ≤ depth

section
variable {steps : Nat}

theorem valuesDerived_succ (hitems : ItemsDerived steps) (hmembers : MembersDerived steps) :
    ValuesDerived (steps + 1) := by
  intro depth u v rest h hrest
  rw [readValue] at h
  split at h
  · cases h
  · next c r hskip =>
    obtain ⟨w, hw, rfl⟩ := exists_blank_of_skipSpace hskip
    split_ifs at h with hn ht hf hquote hminus hdigit harray hobject
    · obtain ⟨r', hr, heq⟩ := map_eq_ok h
      cases heq
      subst hn
      rw [eq_append_of_readKeyword hr]
      exact ⟨w, _, _, hw, rfl, .null, rfl, Nat.zero_le _⟩
    · obtain ⟨r', hr, heq⟩ := map_eq_ok h
      cases heq
      subst ht
      rw [eq_append_of_readKeyword hr]
      exact ⟨w, _, _, hw, rfl, .bool true, rfl, Nat.zero_le _⟩
    · obtain ⟨r', hr, heq⟩ := map_eq_ok h
      cases heq
      subst hf
      rw [eq_append_of_readKeyword hr]
      exact ⟨w, _, _, hw, rfl, .bool false, rfl, Nat.zero_le _⟩
    · obtain ⟨⟨text, r'⟩, hr, heq⟩ := map_eq_ok h
      cases heq
      subst hquote
      obtain ⟨lit, rfl, hlit⟩ := exists_literal_of_readString hr
      exact ⟨w, _, _, hw, by simp, .string hlit, rfl, Nat.zero_le _⟩
    · obtain ⟨⟨n, r'⟩, hr, heq⟩ := map_eq_ok h
      cases heq
      subst hminus
      obtain ⟨lit, hlit, hnum⟩ := exists_numeral_of_readNumeral (s := '-' :: r) hrest hr
      exact ⟨w, lit, _, hw, by rw [hlit], .number hnum, rfl, Nat.zero_le _⟩
    · obtain ⟨⟨n, r'⟩, hr, heq⟩ := map_eq_ok h
      cases heq
      have hread : readNumeral (c :: r) = .ok (n, r') := by
        rwa [readNumeral]
        intro r hr
        exact hminus (List.cons.inj hr).1
      obtain ⟨lit, hlit, hnum⟩ := exists_numeral_of_readNumeral hrest hread
      exact ⟨w, lit, _, hw, by rw [hlit], .number hnum, rfl, Nat.zero_le _⟩
    · subst harray
      cases depth with
      | zero => cases h
      | succ depth =>
        obtain ⟨⟨vs, r'⟩, hr, heq⟩ := map_eq_ok h
        cases heq
        obtain ⟨s, raw, rfl, hs, rfl, hdepth⟩ := hitems _ _ _ _ _ hr
        exact ⟨w, _, _, hw, rfl, .array hs, rfl, Nat.succ_le_succ hdepth⟩
    · subst hobject
      cases depth with
      | zero => cases h
      | succ depth =>
        obtain ⟨⟨ms, r'⟩, hr, heq⟩ := map_eq_ok h
        cases heq
        obtain ⟨s, raw, rfl, hs, rfl, hdepth⟩ := hmembers _ _ _ _ _ hr
        exact ⟨w, _, _, hw, rfl, .object hs, rfl, Nat.succ_le_succ hdepth⟩

theorem itemsDerived_succ (hvalues : ValuesDerived steps) (hitems : ItemsDerived steps) :
    ItemsDerived (steps + 1) := by
  intro depth first u vs rest h
  rw [readItems] at h
  split at h
  · cases h
  · next hnext =>
    cases h
    obtain ⟨w, hw, rfl⟩ := exists_end_of_nextItem hnext
    exact ⟨w ++ [']'], [], by simp, .lastItem hw, rfl, Nat.zero_le _⟩
  · next hnext =>
    obtain ⟨w, hw, rfl⟩ := exists_lead_of_nextItem hnext
    split at h
    · cases h
    · next v r' hvalue =>
      obtain ⟨⟨vs', r''⟩, hrest, heq⟩ := map_eq_ok h
      cases heq
      obtain ⟨t, raws, rfl, ht, rfl, hdepths⟩ := hitems _ _ _ _ _ hrest
      obtain ⟨w', s, raw, hw', rfl, hs, rfl, hdepth⟩ := hvalues _ _ _ _ hvalue (ht.items_stops _)
      refine ⟨w ++ w' ++ (s ++ t), raw :: raws, by simp, .item (hw.append_blank hw') hs ht, rfl,
        max_le hdepth hdepths⟩

theorem membersDerived_succ (hvalues : ValuesDerived steps) (hmembers : MembersDerived steps) :
    MembersDerived (steps + 1) := by
  intro depth first u ms rest h
  rw [readMembers] at h
  split at h
  · cases h
  · next hnext =>
    cases h
    obtain ⟨w, hw, rfl⟩ := exists_end_of_nextName hnext
    exact ⟨w ++ ['}'], [], by simp, .lastMember hw, rfl, Nat.zero_le _⟩
  · next hnext =>
    obtain ⟨w, hw, rfl⟩ := exists_lead_of_nextName hnext
    split at h
    · cases h
    · next name r₁ hstring =>
      obtain ⟨lit, rfl, hlit⟩ := exists_literal_of_readString hstring
      split at h
      · cases h
      · next r₂ hcolon =>
        obtain ⟨w₁, hw₁, rfl⟩ := exists_blank_of_readColon hcolon
        split at h
        · cases h
        · next v r₃ hvalue =>
          obtain ⟨⟨ms', r₄⟩, hrest, heq⟩ := map_eq_ok h
          cases heq
          obtain ⟨t, raws, rfl, ht, rfl, hdepths⟩ := hmembers _ _ _ _ _ hrest
          obtain ⟨w₂, s, raw, hw₂, rfl, hs, rfl, hdepth⟩ :=
            hvalues _ _ _ _ hvalue (ht.members_stops _)
          exact ⟨_, (String.ofList name, raw) :: raws, by simp, .member hw hlit hw₁ hw₂ hs ht,
            rfl, max_le hdepth hdepths⟩

end

/-- Whatever is read was derived, within the depth allowed. -/
theorem exists_derives_of_read : ∀ steps : Nat,
    ValuesDerived steps ∧ ItemsDerived steps ∧ MembersDerived steps
  | 0 => by
    refine ⟨?_, ?_, ?_⟩
    · intro depth u v rest h; cases h
    · intro depth first u vs rest h; cases h
    · intro depth first u ms rest h; cases h
  | steps + 1 => by
    obtain ⟨hvalues, hitems, hmembers⟩ := exists_derives_of_read steps
    exact ⟨valuesDerived_succ hitems hmembers, itemsDerived_succ hvalues hitems,
      membersDerived_succ hvalues hmembers⟩

/-! ### Whole texts -/

theorem readEnd_eq_ok_iff {s : List Char} : readEnd s = .ok () ↔ Blank s := by
  constructor
  · intro h
    rw [readEnd] at h
    split at h
    · next hskip => exact List.dropWhile_eq_nil_iff.mp hskip
    · cases h
  · intro h
    have hskip : skipSpace s = [] := List.dropWhile_eq_nil_iff.mpr h
    rw [readEnd, hskip]

theorem Blank.stops_isNumeric {w : List Char} (hw : Blank w) : Stops isNumeric w := by
  simpa using hw.stops_isNumeric_append (t := []) Text.stops_nil

theorem readDocument_eq_ok_iff {text : List Char} {v : Json} :
    readDocument text = .ok v ↔
      ∃ rest, readValue (stepsFor text) depthLimit text = .ok (v, rest) ∧ Blank rest := by
  rw [readDocument]
  constructor
  · intro h
    split at h
    · cases h
    · next v' rest hvalue =>
      obtain ⟨⟨⟩, hend, rfl⟩ := map_eq_ok h
      exact ⟨rest, hvalue, readEnd_eq_ok_iff.mp hend⟩
  · rintro ⟨rest, hvalue, hrest⟩
    rw [hvalue]
    simp only [readEnd_eq_ok_iff.mpr hrest]
    rfl

theorem parse_eq_ok_iff_readDocument {text : List Char} {v : Json} :
    parse text = .ok v ↔ readDocument text = .ok v := by
  rw [parse]
  cases readDocument text with
  | error f => simp [Except.mapError]
  | ok v' => simp [Except.mapError]

/-- A text is read as a value just when it writes one, no deeper than allowed, that merges to it. -/
theorem parse_eq_ok_iff {text : List Char} {v : Json} :
    parse text = .ok v ↔
      ∃ raw, Writes .Accepted raw text ∧ raw.depth ≤ depthLimit ∧ raw.merged = v := by
  rw [parse_eq_ok_iff_readDocument, readDocument_eq_ok_iff]
  constructor
  · rintro ⟨rest, hvalue, hrest⟩
    obtain ⟨w, s, raw, hw, rfl, hs, rfl, hdepth⟩ :=
      (exists_derives_of_read _).1 _ _ _ _ hvalue hrest.stops_isNumeric
    exact ⟨raw, ⟨w, s, rest, hw, hs, hrest, rfl⟩, hdepth, rfl⟩
  · rintro ⟨raw, ⟨w, s, w', hw, hs, hw', rfl⟩, hdepth, rfl⟩
    refine ⟨w', ?_, hw'⟩
    rw [stepsFor, readValue_blank hw]
    refine isRead_of_derives hs _ _ _ hw'.stops_isNumeric hdepth ?_
    simp only [List.length_append]
    omega

end Issuance.Json

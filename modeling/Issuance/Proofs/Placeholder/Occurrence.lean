import Issuance.Proofs.Placeholder.Matcher
import Issuance.Proofs.Text.Cutting

/-! # Every occurrence of a placeholder

    No path holds a brace, so placeholders never overlap: a match that starts before a placeholder
    ends before it, and a match that starts at it ends with it. So whatever text stands around a
    placeholder, the text before it, the placeholder and the text behind it are filled as if each of
    them stood alone. -/

namespace Issuance.Placeholder

open Text (Match Piece pieces fillPieces)

/-- A path without braces. -/
def Unbraced (path : List Char) : Prop := '{' ∉ path ∧ '}' ∉ path

instance (path : List Char) : Decidable (Unbraced path) := inferInstanceAs (Decidable (_ ∧ _))

/-- A matcher whose matches hold no braces but those around their paths. -/
def Braceless {α : Type} (find : List Char → Option (Match α)) : Prop :=
  ∀ {s m}, find s = some m →
    ∃ path rest, s = ofPath path ++ rest ∧ Unbraced path ∧ m.span = path.length + 4

variable {α : Type} {find : List Char → Option (Match α)} {path word new : List Char} {g : Grammar}
  {m : Match α}

theorem braceless_literal (h : Unbraced path) : Braceless (Text.literal (ofPath path)) := by
  intro s m hm
  obtain ⟨⟨rest, rfl⟩, rfl⟩ := Text.literal_eq_some_iff.mp hm
  exact ⟨path, rest, rfl, h, length_ofPath path⟩

theorem unbraced_of_isPathChar (h : ∀ c ∈ path, isPathChar c = true) : Unbraced path :=
  ⟨fun hmem => absurd (h _ hmem) (by decide), fun hmem => absurd (h _ hmem) (by decide)⟩

theorem Grammar.HasPath.unbraced (h : g.HasPath path) : Unbraced path := by
  cases h with
  | plain _ hchars => exact unbraced_of_isPathChar hchars
  | dollar _ _ hchars =>
    obtain ⟨hopen, hclose⟩ := unbraced_of_isPathChar hchars
    exact ⟨List.not_mem_cons_of_ne_of_not_mem (by decide) hopen,
      List.not_mem_cons_of_ne_of_not_mem (by decide) hclose⟩

theorem braceless_find (g : Grammar) : Braceless (Placeholder.find g) := by
  intro s m hm
  obtain ⟨hpath, ⟨rest, rfl⟩, hspan⟩ := find_eq_some_iff.mp hm
  exact ⟨m.value, rest, rfl, hpath.unbraced, hspan⟩

/-! ### Cutting a text before a placeholder -/

/-- A match that starts before two opening braces ends before them. -/
theorem Braceless.span_le (hb : Braceless find) {s t : List Char} (hs : s ≠ [])
    (hm : find (s ++ (opening ++ t)) = some m) : m.span ≤ s.length := by
  obtain ⟨path, rest, heq, ⟨hpath, -⟩, hspan⟩ := hb hm
  have hinner : '{' ∉ path ++ closing := by simpa [closing] using hpath
  rcases s with _ | ⟨c, _ | ⟨d, before⟩⟩
  · exact absurd rfl hs
  · -- The braces of the match would be the one before and the first of the two.
    have hcons : '{' :: t = path ++ closing ++ rest := by
      simpa [ofPath, opening] using (List.cons.inj heq).2
    cases path with
    | nil => simp [closing] at hcons
    | cons d word => exact absurd ((List.cons.inj hcons).1 ▸ List.mem_cons_self) hpath
  · have happend : before ++ (opening ++ t) = path ++ closing ++ rest := by
      simpa [ofPath, opening] using (List.cons.inj (List.cons.inj heq).2).2
    rcases List.append_eq_append_iff.mp happend with ⟨tail, htail, hbraces⟩ | ⟨tail, htail, -⟩
    · cases tail with
      | nil =>
        have hlength := congrArg List.length htail
        simp only [closing, List.length_append, List.length_cons, List.length_nil] at hlength ⊢
        omega
      | cons o tail =>
        obtain rfl : '{' = o := (List.cons.inj hbraces).1
        exact absurd (htail ▸ List.mem_append_right _ List.mem_cons_self) hinner
    · have hlength := congrArg List.length htail
      simp only [closing, List.length_append, List.length_cons, List.length_nil] at hlength ⊢
      omega

/-- A text may be cut where two braces open. -/
theorem IsFinder.pieces_append_opening (hf : IsFinder find) (hb : Braceless find)
    (t s : List Char) :
    pieces find (s ++ (opening ++ t)) = pieces find s ++ pieces find (opening ++ t) := by
  refine Text.pieces_append fun u _ hne => ⟨?_, fun m => hf.span_le_length⟩
  refine Option.ext fun m => ⟨fun hm => hf.found hm ?_, fun hm => hf.found hm ?_⟩
  · rw [List.take_append_of_le_length (hb.span_le hne hm)]
    exact List.take_prefix _ _
  · exact (List.take_prefix _ _).trans (List.prefix_append _ _)

/-! ### Cutting a text behind a placeholder -/

/-- One placeholder starts another text only if it has the same path. -/
theorem eq_of_starts_ofPath {t : List Char} (hword : Unbraced word) (hpath : Unbraced path)
    (h : ofPath word <+: ofPath path ++ t) : word = path := by
  obtain ⟨rest, hrest⟩ := h
  have hinner : word ++ '}' :: ('}' :: rest) = path ++ '}' :: ('}' :: t) := by
    simpa [ofPath, opening, closing] using hrest
  have hcut := congrArg (Text.cut '}') hinner
  rw [Text.cut_append_cons _ hword.2, Text.cut_append_cons _ hpath.2] at hcut
  exact congrArg Prod.fst (Option.some.inj hcut)

/-- What is found at a placeholder does not depend on the text behind it. -/
theorem IsFinder.find_ofPath_append (hf : IsFinder find) (hb : Braceless find)
    (hpath : Unbraced path) (t : List Char) : find (ofPath path ++ t) = find (ofPath path) := by
  refine Option.ext fun m => ⟨fun hm => hf.found hm ?_, fun hm => hf.found hm ?_⟩
  · obtain ⟨word, rest, heq, hword, hspan⟩ := hb hm
    obtain rfl := eq_of_starts_ofPath hword hpath ⟨rest, heq.symm⟩
    have htake : (ofPath word ++ t).take m.span = ofPath word :=
      List.take_left' (by rw [length_ofPath, hspan])
    exact htake.symm ▸ List.prefix_rfl
  · exact (List.take_prefix _ _).trans (List.prefix_append _ _)

/-- A placeholder that is found is one match, with any text around it. -/
theorem IsFinder.pieces_of_found (hf : IsFinder find) (hb : Braceless find) (hpath : Unbraced path)
    (hm : find (ofPath path) = some m) (s t : List Char) :
    pieces find (s ++ (ofPath path ++ t)) = pieces find s ++ .hit m.value :: pieces find t := by
  have hcons : ∀ u, ofPath path ++ u = '{' :: ('{' :: (path ++ closing) ++ u) := fun _ => rfl
  have hcut := hf.pieces_append_opening hb (path ++ closing ++ t) s
  have hfound : find ('{' :: ('{' :: (path ++ closing) ++ t)) = some m :=
    (hf.find_ofPath_append hb hpath t).trans hm
  obtain ⟨word, rest, hword, hplain, hspan⟩ := hb hm
  obtain rfl := eq_of_starts_ofPath (t := []) hplain hpath ⟨rest, by simpa using hword.symm⟩
  have hlength : ('{' :: (word ++ closing)).length = word.length + 4 - 1 := by simp [closing]
  rw [hcons]
  refine hcut.trans (congrArg (_ ++ ·) ?_)
  change pieces find ('{' :: ('{' :: (word ++ closing) ++ t)) = _
  rw [Text.pieces_cons_of_some hfound, hspan, List.drop_left' hlength]

/-- A placeholder that is not found is all characters, with any text around it. -/
theorem IsFinder.pieces_of_not_found (hf : IsFinder find) (hb : Braceless find)
    (hpath : Unbraced path) (hm : find (ofPath path) = none) (s t : List Char) :
    pieces find (s ++ (ofPath path ++ t)) =
      pieces find s ++ ((ofPath path).map .char ++ pieces find t) := by
  have hcut := hf.pieces_append_opening hb (path ++ closing ++ t) s
  have hnone : find ('{' :: '{' :: (path ++ closing ++ t)) = none :=
    (hf.find_ofPath_append hb hpath t).trans hm
  have hinner : '{' ∉ path ++ closing := by simpa [closing] using hpath.1
  have hstops : Text.Stops (· == '{') (path ++ closing ++ t) := by
    refine Text.stops_append (by simp [closing]) (fun c hc => beq_false_of_ne ?_) t
    rintro rfl
    exact hinner hc
  refine hcut.trans (congrArg (_ ++ ·) ?_)
  change pieces find ('{' :: '{' :: (path ++ closing ++ t)) = _
  rw [Text.pieces_cons_of_none hnone, hf.pieces_brace hstops,
    hf.pieces_append_of_no_brace t hinner]
  rfl

/-! ### Filling around a placeholder -/

/-- The reserved placeholder of a path is replaced in all its places. -/
theorem replace_ofPath (hpath : Unbraced path) (hslots : path.all isSlotChar = true)
    (s t : List Char) : Text.replace (ofPath path) new (s ++ (ofPath path ++ t)) =
      Text.replace (ofPath path) new s ++ (new ++ Text.replace (ofPath path) new t) := by
  have hm : Text.literal (ofPath path) (ofPath path) = some ⟨(ofPath path).length, ()⟩ :=
    Text.literal_eq_some_iff.mpr ⟨List.prefix_rfl, rfl⟩
  have hpieces := (isFinder_literal hslots).pieces_of_found (braceless_literal hpath) hpath hm s t
  rw [Text.replace, hpieces, Text.fillPieces_append]
  rfl

/-- The reserved placeholder of another path is left as it is. -/
theorem replace_ofPath_of_ne (hpath : Unbraced path) (hword : Unbraced word)
    (hslots : word.all isSlotChar = true) (hne : word ≠ path) (s t : List Char) :
    Text.replace (ofPath word) new (s ++ (ofPath path ++ t)) =
      Text.replace (ofPath word) new s ++ (ofPath path ++ Text.replace (ofPath word) new t) := by
  have hm : Text.literal (ofPath word) (ofPath path) = none := by
    rw [Option.eq_none_iff_forall_ne_some]
    intro m hm
    have hstarts := (Text.literal_eq_some_iff.mp hm).1
    exact hne (eq_of_starts_ofPath (t := []) hword hpath (by simpa using hstarts))
  have hpieces :=
    (isFinder_literal hslots).pieces_of_not_found (braceless_literal hword) hpath hm s t
  rw [Text.replace, hpieces, Text.fillPieces_append, Text.fillPieces_append,
    Text.fillPieces_map_char]
  rfl

variable {escaping : Escaping} {scope : Json.Object}

@[simp]
theorem fillBuiltins_nil (b : Builtins) : fillBuiltins b [] = [] := rfl

@[simp]
theorem fillPaths_nil : fillPaths g escaping scope [] = [] := rfl

/-- The placeholder of the id becomes the id in all its places. -/
theorem fillBuiltins_uuid (b : Builtins) (s t : List Char) :
    fillBuiltins b (s ++ (uuidPlaceholder ++ t)) =
      fillBuiltins b s ++ (b.uuid ++ fillBuiltins b t) := by
  rw [fillBuiltins, nowPlaceholder, uuidPlaceholder,
    replace_ofPath_of_ne (by decide) (by decide) (by decide) (by decide),
    replace_ofPath (by decide) (by decide)]
  rfl

/-- A placeholder that is not reserved passes through the filling of those that are. -/
theorem fillBuiltins_ofPath (b : Builtins) (hpath : Unbraced path) (hnow : "now".toList ≠ path)
    (huuid : "uuid".toList ≠ path) (s t : List Char) :
    fillBuiltins b (s ++ (ofPath path ++ t)) =
      fillBuiltins b s ++ (ofPath path ++ fillBuiltins b t) := by
  rw [fillBuiltins, nowPlaceholder, uuidPlaceholder,
    replace_ofPath_of_ne hpath (by decide) (by decide) hnow,
    replace_ofPath_of_ne hpath (by decide) (by decide) huuid]
  rfl

/-- A placeholder of the grammar is one match, with any text around it. -/
theorem pieces_ofPath (hpath : g.HasPath path) (s t : List Char) :
    pieces (Placeholder.find g) (s ++ (ofPath path ++ t)) =
      pieces (Placeholder.find g) s ++ .hit path :: pieces (Placeholder.find g) t := by
  have hm : Placeholder.find g (ofPath path) = some ⟨path.length + 4, path⟩ :=
    find_eq_some_iff.mpr ⟨hpath, List.prefix_rfl, rfl⟩
  exact (isFinder_find g).pieces_of_found (braceless_find g) hpath.unbraced hm s t

/-- The placeholder of a path becomes the value under it in all its places. -/
theorem fillPaths_ofPath (hpath : g.HasPath path) (s t : List Char) :
    fillPaths g escaping scope (s ++ (ofPath path ++ t)) = fillPaths g escaping scope s ++
      (fill escaping scope path ++ fillPaths g escaping scope t) := by
  rw [fillPaths, pieces_ofPath hpath, Text.fillPieces_append]
  rfl

/-- What no path of the grammar stands in is left as it is between braces. -/
theorem fillPaths_ofPath_of_not (hpath : Unbraced path) (hnot : ¬g.HasPath path)
    (s t : List Char) : fillPaths g escaping scope (s ++ (ofPath path ++ t)) =
      fillPaths g escaping scope s ++ (ofPath path ++ fillPaths g escaping scope t) := by
  have hm : Placeholder.find g (ofPath path) = none := by
    rw [Option.eq_none_iff_forall_ne_some]
    intro m hm
    obtain ⟨hvalue, hstarts, -⟩ := find_eq_some_iff.mp hm
    have heq := eq_of_starts_ofPath (t := []) hvalue.unbraced hpath (by simpa using hstarts)
    exact hnot (heq ▸ hvalue)
  have hpieces :=
    (isFinder_find g).pieces_of_not_found (braceless_find g) hpath hm s t
  rw [fillPaths, hpieces, Text.fillPieces_append, Text.fillPieces_append,
    Text.fillPieces_map_char]
  rfl

/-! ### Texts without placeholders -/

/-- A text that holds no placeholder of a grammar. -/
def Grammar.AsksNothing (g : Grammar) (s : List Char) : Prop :=
  ∀ path, g.HasPath path → ¬ofPath path <:+: s

variable {s : List Char}

theorem asksNothing_of_no_opening (h : ¬opening <:+: s) : g.AsksNothing s := by
  refine fun path _ hsub => h (List.IsInfix.trans ⟨[], path ++ closing, ?_⟩ hsub)
  rw [ofPath, List.nil_append, List.append_assoc]

/-- A text holds no placeholder just when none is found in it. -/
theorem asksNothing_iff : g.AsksNothing s ↔ Text.hits (pieces (Placeholder.find g) s) = [] := by
  constructor
  · refine fun h => List.eq_nil_iff_forall_not_mem.mpr fun path hpath => ?_
    obtain ⟨t, m, ht, hm, -⟩ := Text.exists_find_of_mem_hits 0 hpath
    obtain ⟨hvalue, hstarts, -⟩ := find_eq_some_iff.mp hm
    exact h m.value hvalue (hstarts.isInfix.trans ht.isInfix)
  · rintro h path hpath ⟨before, behind, rfl⟩
    rw [List.append_assoc, pieces_ofPath hpath, Text.hits_append] at h
    exact List.cons_ne_nil _ _ (List.append_eq_nil_iff.mp h).2

theorem asksNothing_of_no_brace (h : '{' ∉ s) : g.AsksNothing s :=
  asksNothing_of_no_opening fun hsub => h (hsub.subset List.mem_cons_self)

theorem fillPaths_eq_self (h : g.AsksNothing s) : fillPaths g escaping scope s = s := by
  rw [fillPaths, Text.pieces_eq_map_char, Text.fillPieces_map_char]
  intro t ht _
  rw [Option.eq_none_iff_forall_ne_some]
  intro m hm
  obtain ⟨hpath, hstarts, -⟩ := find_eq_some_iff.mp hm
  exact h _ hpath (hstarts.isInfix.trans ht.isInfix)

/-- A text without placeholders is left as it is. -/
theorem fillAll_eq_self (h : g.AsksNothing s) (b : Builtins) : fillAll g escaping b scope s = s := by
  have hplain : ∀ word : List Char, word ≠ [] → word.all isPathChar = true →
      ¬ofPath word <:+: s :=
    fun word hne hall => h word (.plain hne (List.all_eq_true.mp hall))
  have hbuiltins : fillBuiltins b s = s := by
    rw [fillBuiltins, nowPlaceholder, Text.replace_eq_self (hplain _ (by decide) (by decide)),
      uuidPlaceholder, Text.replace_eq_self (hplain _ (by decide) (by decide))]
  rw [fillAll, hbuiltins, fillPaths_eq_self h]

end Issuance.Placeholder

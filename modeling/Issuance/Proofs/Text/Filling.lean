import Issuance.Proofs.Text.Cutting
import Issuance.Text.Pieces
import Mathlib.Data.List.Basic

/-! # Pieces of a text

    A text falls into the matches that the walk finds and the characters between them, one piece
    after the other: a character where nothing matches, a match where something does, and then the
    pieces of what the match leaves. What is filled in depends on the matches alone. -/

namespace Issuance.Text

variable {α β : Type} {find find' : List Char → Option (Match α)} {ps qs : List (Piece α)}

/-! ### One piece after the other -/

@[simp]
theorem pieces_nil : pieces find [] = [] := rfl

/-- The walk that still skips some characters goes on behind them. -/
theorem piecesFrom_eq_pieces : ∀ (skip : Nat) (s : List Char),
    piecesFrom find skip s = pieces find (s.drop skip)
  | 0, _ => rfl
  | _ + 1, [] => rfl
  | skip + 1, _ :: rest => piecesFrom_eq_pieces skip rest

theorem pieces_cons_of_none {c : Char} {rest : List Char} (h : find (c :: rest) = none) :
    pieces find (c :: rest) = .char c :: pieces find rest := by
  rw [pieces, piecesFrom, h]
  rfl

theorem pieces_cons_of_some {c : Char} {rest : List Char} {m : Match α}
    (h : find (c :: rest) = some m) :
    pieces find (c :: rest) = .hit m.value :: pieces find (rest.drop (m.span - 1)) := by
  rw [pieces, piecesFrom, h]
  exact congrArg _ (piecesFrom_eq_pieces _ _)

/-- Matchers that agree wherever the walk may come see the same pieces. -/
theorem pieces_congr : ∀ {s : List Char}, (∀ t, t <:+ s → find t = find' t) →
    ∀ skip, piecesFrom find skip s = piecesFrom find' skip s
  | [], _, _ => by simp [piecesFrom]
  | c :: rest, h, skip + 1 =>
    pieces_congr (fun t ht => h t (ht.trans (List.suffix_cons c rest))) skip
  | c :: rest, h, 0 => by
    have hrest := pieces_congr fun t ht => h t (ht.trans (List.suffix_cons c rest))
    rw [piecesFrom, piecesFrom, ← h (c :: rest) List.suffix_rfl]
    split <;> rw [hrest]

/-- A stretch of a text in which nothing matches is all characters. -/
theorem pieces_append_of_none {t : List Char} : ∀ {s : List Char},
    (∀ u, u <:+ s → u ≠ [] → find (u ++ t) = none) →
      pieces find (s ++ t) = s.map .char ++ pieces find t
  | [], _ => rfl
  | c :: rest, h => by
    have hnone := h (c :: rest) List.suffix_rfl (List.cons_ne_nil c rest)
    rw [List.cons_append] at hnone ⊢
    rw [pieces_cons_of_none hnone,
      pieces_append_of_none fun u hu => h u (hu.trans (List.suffix_cons c rest)), List.map_cons,
      List.cons_append]

/-- A text in which nothing matches is all characters. -/
theorem pieces_eq_map_char {s : List Char} (h : ∀ t, t <:+ s → t ≠ [] → find t = none) :
    pieces find s = s.map .char := by
  have hnone : ∀ u, u <:+ s → u ≠ [] → find (u ++ []) = none := fun u hu hne =>
    (congrArg find u.append_nil).trans (h u hu hne)
  have hpieces := pieces_append_of_none hnone
  rwa [List.append_nil, pieces_nil, List.append_nil] at hpieces

/-- A text may be cut where no match reaches over and none depends on what stands behind. The
    induction is on the length of the text, since the walk goes on behind a match. -/
theorem pieces_append {t : List Char} : ∀ {s : List Char},
    (∀ u, u <:+ s → u ≠ [] → find (u ++ t) = find u ∧ ∀ m, find u = some m → m.span ≤ u.length) →
      pieces find (s ++ t) = pieces find s ++ pieces find t
  | [], _ => rfl
  | c :: rest, h => by
    obtain ⟨heq, hle⟩ := h (c :: rest) List.suffix_rfl (List.cons_ne_nil c rest)
    have hshorter : ∀ {u}, u <:+ rest → pieces find (u ++ t) = pieces find u ++ pieces find t :=
      fun hu => pieces_append fun v hv => h v (hv.trans (hu.trans (List.suffix_cons c rest)))
    rw [List.cons_append] at heq ⊢
    cases hm : find (c :: rest) with
    | none =>
      rw [pieces_cons_of_none (heq.trans hm), pieces_cons_of_none hm, hshorter List.suffix_rfl,
        List.cons_append]
    | some m =>
      have hspan : m.span - 1 ≤ rest.length := Nat.sub_le_of_le_add (hle m hm)
      rw [pieces_cons_of_some (heq.trans hm), pieces_cons_of_some hm,
        List.drop_append_of_le_length hspan, hshorter (List.drop_suffix _ _), List.cons_append]
  termination_by s => s.length
  decreasing_by
    have hlength := hu.length_le
    simp only [List.length_cons]
    omega

/-- Every match was found at some place of the text. -/
theorem exists_find_of_mem_hits {a : α} : ∀ (skip : Nat) {s : List Char},
    a ∈ hits (piecesFrom find skip s) → ∃ t m, t <:+ s ∧ find t = some m ∧ m.value = a
  | _, [], h => by simp [piecesFrom, hits] at h
  | skip + 1, c :: rest, h => by
    obtain ⟨t, m, ht, hm⟩ := exists_find_of_mem_hits skip h
    exact ⟨t, m, ht.trans (List.suffix_cons c rest), hm⟩
  | 0, c :: rest, h => by
    rw [piecesFrom] at h
    split at h
    · obtain ⟨t, m, ht, hm⟩ := exists_find_of_mem_hits 0 h
      exact ⟨t, m, ht.trans (List.suffix_cons c rest), hm⟩
    · next m hm =>
      rcases List.mem_cons.mp h with rfl | h
      · exact ⟨c :: rest, m, List.suffix_rfl, hm, rfl⟩
      · obtain ⟨t, m', ht, hm'⟩ := exists_find_of_mem_hits _ h
        exact ⟨t, m', ht.trans (List.suffix_cons c rest), hm'⟩

theorem literal_eq_some_iff {old s : List Char} {m : Match Unit} :
    literal old s = some m ↔ old <+: s ∧ m = ⟨old.length, ()⟩ := by
  rw [literal]
  split
  · next h => simpa [List.isPrefixOf_iff_prefix.mp h] using eq_comm
  · next h => simpa using fun hp => absurd (List.isPrefixOf_iff_prefix.mpr hp) h

/-! ### Literal texts -/

variable {sep : Char} {old s : List Char}

/-- A literal text is not found before another character. -/
theorem literal_eq_none_of_ne {c d : Char} (h : c ≠ d) : literal (c :: old) (d :: s) = none := by
  rw [Option.eq_none_iff_forall_ne_some]
  intro m hm
  exact h (List.cons_prefix_cons.mp (literal_eq_some_iff.mp hm).1).1

/-- A text may be cut at a character that a literal text does not hold. -/
theorem pieces_literal_append_cons (h : sep ∉ old) (s t : List Char) :
    pieces (literal old) (s ++ sep :: t) =
      pieces (literal old) s ++ pieces (literal old) (sep :: t) := by
  refine pieces_append fun u _ _ => ⟨Option.ext fun m => ?_, fun m hm => ?_⟩
  · rw [literal_eq_some_iff, literal_eq_some_iff]
    refine and_congr_left fun _ => ⟨prefix_of_prefix_append_cons h, fun hstarts => ?_⟩
    exact hstarts.trans (List.prefix_append _ _)
  · obtain ⟨hstarts, rfl⟩ := literal_eq_some_iff.mp hm
    exact hstarts.length_le

/-- A literal text is not found in a stretch without its first character. -/
theorem pieces_literal_append_of_not_mem (h : sep ∉ s) (t : List Char) :
    pieces (literal (sep :: old)) (s ++ t) = s.map .char ++ pieces (literal (sep :: old)) t := by
  refine pieces_append_of_none fun u hu hne => ?_
  obtain ⟨d, rest, rfl⟩ := List.exists_cons_of_ne_nil hne
  refine literal_eq_none_of_ne ?_
  rintro rfl
  exact h (hu.subset List.mem_cons_self)

/-! ### Filling -/

@[simp]
theorem hits_append : ∀ ps qs : List (Piece α), hits (ps ++ qs) = hits ps ++ hits qs
  | [], _ => rfl
  | .char _ :: rest, qs => hits_append rest qs
  | .hit a :: rest, qs => congrArg (a :: ·) (hits_append rest qs)

@[simp]
theorem hits_map_char : ∀ s : List Char, hits (s.map (.char : Char → Piece α)) = []
  | [] => rfl
  | _ :: rest => hits_map_char rest

@[simp]
theorem fillPieces_append (fill : α → List Char) : ∀ ps qs : List (Piece α),
    fillPieces fill (ps ++ qs) = fillPieces fill ps ++ fillPieces fill qs
  | [], _ => rfl
  | .char c :: rest, qs => congrArg (c :: ·) (fillPieces_append fill rest qs)
  | .hit a :: rest, qs => by
    rw [List.cons_append, fillPieces, fillPieces, fillPieces_append fill rest qs, List.append_assoc]

@[simp]
theorem fillPieces_map_char (fill : α → List Char) : ∀ s : List Char,
    fillPieces fill (s.map .char) = s
  | [] => rfl
  | c :: rest => congrArg (c :: ·) (fillPieces_map_char fill rest)

/-- A character of a filled text was there before, or stands for a match. -/
theorem mem_of_mem_fillPieces {fill : α → List Char} {c : Char} : ∀ (skip : Nat) {s : List Char},
    c ∈ fillPieces fill (piecesFrom find skip s) → c ∈ s ∨ ∃ a, c ∈ fill a
  | _, [], h => by simp [piecesFrom, fillPieces] at h
  | skip + 1, _ :: _, h => (mem_of_mem_fillPieces skip h).imp_left (List.mem_cons_of_mem _)
  | 0, d :: rest, h => by
    rw [piecesFrom] at h
    split at h
    · rcases List.mem_cons.mp h with rfl | h
      · exact .inl List.mem_cons_self
      · exact (mem_of_mem_fillPieces 0 h).imp_left (List.mem_cons_of_mem _)
    · rcases List.mem_append.mp h with h | h
      · exact .inr ⟨_, h⟩
      · exact (mem_of_mem_fillPieces _ h).imp_left (List.mem_cons_of_mem _)

@[simp]
theorem replace_nil (old new : List Char) : replace old new [] = [] := rfl

/-- A text that does not hold a literal text is left as it is. -/
theorem replace_eq_self {new : List Char} (h : ¬old <:+: s) : replace old new s = s := by
  rw [replace, pieces_eq_map_char, fillPieces_map_char]
  intro t ht _
  rw [Option.eq_none_iff_forall_ne_some]
  exact fun m hm => h ((literal_eq_some_iff.mp hm).1.isInfix.trans ht.isInfix)

/-- Only what stands for the matches that are there matters. -/
theorem fillPieces_congr {f g : α → List Char} : ∀ {ps : List (Piece α)},
    (∀ a ∈ hits ps, f a = g a) → fillPieces f ps = fillPieces g ps
  | [], _ => rfl
  | .char c :: rest, h => congrArg (c :: ·) (fillPieces_congr h)
  | .hit a :: rest, h => by
    rw [fillPieces, fillPieces, h a List.mem_cons_self,
      fillPieces_congr fun b hb => h b (List.mem_cons_of_mem a hb)]

end Issuance.Text

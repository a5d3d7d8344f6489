import Issuance.Proofs.Json.Grammar
import Issuance.Proofs.Placeholder.Occurrence
import Issuance.Proofs.Placeholder.Spelled

/-! # Placeholders in a JSON text

    Outside its literals a JSON text has no two braces that could open a placeholder, and no
    placeholder reaches over a quote. So the matches in a text of a value are the matches in its
    names and strings, in order, and filling the text gives a text of the value whose names and
    strings are filled one by one, as long as what is put in is spelled as a literal spells it. -/

namespace Issuance.Placeholder

open Json (Spelling Literal Derives Phrase Leaf Blank Lead Writes)
open Text (Match Piece pieces hits fillPieces)

variable {α : Type}

/-- A stretch of a text that falls into the same pieces whatever follows it. -/
def FallsInto (find : List Char → Option (Match α)) (s : List Char) (ps : List (Piece α)) : Prop :=
  ∀ t, pieces find (s ++ t) = ps ++ pieces find t

/-- A text with what is found in it filled. -/
def fillText (find : List Char → Option (Match α)) (f : α → List Char) (s : String) : String :=
  String.ofList (fillPieces f (pieces find s.toList))

/-- What is found in a leaf. -/
def leafHits (find : List Char → Option (Match α)) : Leaf → List α
  | .name s => hits (pieces find s.toList)
  | .text s => hits (pieces find s.toList)
  | .number _ => []

variable {find : List Char → Option (Match α)} {σ τ : Spelling} {ph : Phrase} {s t w : List Char}
  {ps qs : List (Piece α)}

/-! ### Pieces of stretches -/

theorem FallsInto.append (h : FallsInto find s ps) (h' : FallsInto find t qs) :
    FallsInto find (s ++ t) (ps ++ qs) := by
  intro u
  rw [List.append_assoc, h, h', List.append_assoc]

theorem FallsInto.pieces_eq (h : FallsInto find s ps) : pieces find s = ps := by
  have hs := h []
  rwa [List.append_nil, Text.pieces_nil, List.append_nil] at hs

theorem IsFinder.fallsInto_of_no_brace (hf : IsFinder find) (h : '{' ∉ s) :
    FallsInto find s (s.map .char) :=
  fun t => hf.pieces_append_of_no_brace t h

theorem IsFinder.fallsInto_char (hf : IsFinder find) {c : Char} (h : c ≠ '{') :
    FallsInto find [c] [.char c] :=
  hf.fallsInto_of_no_brace (by simpa using h.symm)

theorem IsFinder.fallsInto_blank (hf : IsFinder find) (h : Blank w) :
    FallsInto find w (w.map .char) :=
  hf.fallsInto_of_no_brace fun hmem => absurd (h _ hmem) (by decide)

theorem IsFinder.fallsInto_lead (hf : IsFinder find) {first : Bool} (h : Lead first w) :
    FallsInto find w (w.map .char) := by
  refine hf.fallsInto_of_no_brace fun hmem => ?_
  rcases h.isSpace_or_comma hmem with hspace | hcomma
  · exact absurd hspace (by decide)
  · exact absurd hcomma (by decide)

/-- A literal in its quotes falls into its own pieces. -/
theorem IsFinder.fallsInto_quoted (hf : IsFinder find) (lit : List Char) :
    FallsInto find ('"' :: (lit ++ ['"'])) (.char '"' :: (pieces find lit ++ [.char '"'])) := by
  intro t
  have hquote : isSlotChar '"' = false := by decide
  have hopen := hf.fallsInto_char (c := '"') (by decide) (lit ++ '"' :: t)
  have hclose := hf.pieces_append_cons hquote t lit
  rw [hclose] at hopen
  simpa using hopen

theorem IsFinder.fallsInto_brace (hf : IsFinder find) {c : Char} (hc : c ≠ '{')
    (h : FallsInto find (c :: s) ps) : FallsInto find ('{' :: c :: s) (.char '{' :: ps) := by
  intro t
  have hbrace := hf.pieces_brace (t := c :: s ++ t) (Text.stops_cons.mpr (by simpa using hc))
  rw [List.cons_append, hbrace, h t, List.cons_append]

/-! ### Pieces of a phrase -/

/-- What pieces of a text of a phrase hold: the matches in its leaves, and, when they are filled, a
    text of the phrase with its leaves filled. -/
structure Holds (find : List Char → Option (Match α)) (σ : Spelling) (ph : Phrase)
    (ps : List (Piece α)) : Prop where
  hits_eq : hits ps = ph.leaves.flatMap (leafHits find)
  derives_fill : ∀ {τ : Spelling} {f g : α → List Char}, (∀ c w, σ c w → τ c w) →
    (∀ a, Literal τ (f a) (g a)) →
      Derives τ (ph.mapTexts (fillText find f) (fillText find f)) (fillPieces g ps)

/-- The pieces of a text that the grammar gives for a phrase hold what its leaves hold. The
    induction is on the derivation; each token is a stretch of its own. -/
theorem exists_holds (hf : IsFinder find) (hσ : Tame σ) (h : Derives σ ph s) :
    ∃ ps, FallsInto find s ps ∧ Holds find σ ph ps := by
  induction h with
  | null =>
    refine ⟨_, hf.fallsInto_of_no_brace (by decide), Text.hits_map_char _, fun _ _ => ?_⟩
    rw [Text.fillPieces_map_char]
    exact .null
  | bool b =>
    refine ⟨_, hf.fallsInto_of_no_brace (by cases b <;> decide), Text.hits_map_char _,
      fun _ _ => ?_⟩
    rw [Text.fillPieces_map_char]
    exact .bool b
  | number hn =>
    refine ⟨_, hf.fallsInto_of_no_brace fun hmem => ?_, Text.hits_map_char _, fun _ _ => ?_⟩
    · exact absurd (hn.forall_isNumeric '{' hmem) (by decide)
    rw [Text.fillPieces_map_char]
    exact .number hn
  | @string s lit hlit =>
    have hspelled := respelled_pieces hf hσ hlit
    refine ⟨_, hf.fallsInto_quoted lit, ?_, fun hστ hfg => ?_⟩
    · simp [hits, hspelled.hits_eq, Phrase.leaves, Json.leaves, leafHits]
    · have hfill := Derives.string (hspelled.literal hστ hfg)
      simpa [fillPieces, Phrase.mapTexts, Json.mapTexts, fillText] using hfill
  | array _ ih =>
    obtain ⟨ps, hfalls, hps⟩ := ih
    refine ⟨_, (hf.fallsInto_char (c := '[') (by decide)).append hfalls, hps.hits_eq,
      fun hστ hfg => .array (hps.derives_fill hστ hfg)⟩
  | object hms ih =>
    obtain ⟨ps, hfalls, hps⟩ := ih
    obtain ⟨c, rest, rfl, hc⟩ := hms.members_head
    exact ⟨_, hf.fallsInto_brace hc hfalls, hps.hits_eq,
      fun hστ hfg => .object (hps.derives_fill hστ hfg)⟩
  | lastItem hw =>
    refine ⟨_, (hf.fallsInto_blank hw).append (hf.fallsInto_char (c := ']') (by decide)), ?_,
      fun _ _ => ?_⟩
    · simp [hits, Phrase.leaves, Json.itemLeaves]
    · simpa [fillPieces, Phrase.mapTexts, Json.mapItems] using Derives.lastItem hw
  | item hw _ _ ihv ihvs =>
    obtain ⟨ps, hfalls, hps⟩ := ihv
    obtain ⟨qs, hfalls', hqs⟩ := ihvs
    refine ⟨_, (hf.fallsInto_lead hw).append (hfalls.append hfalls'), ?_, fun hστ hfg => ?_⟩
    · simp [hps.hits_eq, hqs.hits_eq, Phrase.leaves, Json.itemLeaves]
    · have hitem := Derives.item hw (hps.derives_fill hστ hfg) (hqs.derives_fill hστ hfg)
      simpa [Phrase.mapTexts, Json.mapItems] using hitem
  | lastMember hw =>
    refine ⟨_, (hf.fallsInto_blank hw).append (hf.fallsInto_char (c := '}') (by decide)), ?_,
      fun _ _ => ?_⟩
    · simp [hits, Phrase.leaves, Json.memberLeaves]
    · simpa [fillPieces, Phrase.mapTexts, Json.mapMembers] using Derives.lastMember hw
  | @member _ v ms w name lit w₁ w₂ s t hw hlit hw₁ hw₂ _ _ ihv ihms =>
    obtain ⟨ps, hfalls, hps⟩ := ihv
    obtain ⟨qs, hfalls', hqs⟩ := ihms
    have hspelled := respelled_pieces hf hσ hlit
    have hall := (hf.fallsInto_lead hw).append <| (hf.fallsInto_quoted lit).append <|
      (hf.fallsInto_blank hw₁).append <| (hf.fallsInto_char (c := ':') (by decide)).append <|
      (hf.fallsInto_blank hw₂).append <| hfalls.append hfalls'
    refine ⟨_, by simpa using hall, ?_, fun hστ hfg => ?_⟩
    · simp [hits, hspelled.hits_eq, hps.hits_eq, hqs.hits_eq, Phrase.leaves, Json.memberLeaves,
        leafHits]
    · have hmember := Derives.member hw (hspelled.literal hστ hfg) hw₁ hw₂
        (hps.derives_fill hστ hfg) (hqs.derives_fill hστ hfg)
      simpa [fillPieces, Phrase.mapTexts, Json.mapMembers, fillText] using hmember

/-- The pieces of a text of a value, white space around it included. -/
theorem exists_holds_of_writes (hf : IsFinder find) (hσ : Tame σ) {v : Json} {text : List Char}
    (h : Writes σ v text) :
    hits (pieces find text) = v.leaves.flatMap (leafHits find) ∧
      ∀ {τ : Spelling} {f g : α → List Char}, (∀ c w, σ c w → τ c w) →
        (∀ a, Literal τ (f a) (g a)) →
          Writes τ (v.mapTexts (fillText find f) (fillText find f))
            (fillPieces g (pieces find text)) := by
  obtain ⟨w, s, w', hw, hs, hw', rfl⟩ := h
  obtain ⟨ps, hfalls, hps⟩ := exists_holds hf hσ hs
  have hall := (hf.fallsInto_blank hw).append (hfalls.append (hf.fallsInto_blank hw'))
  rw [hall.pieces_eq]
  refine ⟨?_, fun hστ hfg => ?_⟩
  · simp [hps.hits_eq, Phrase.leaves]
  · refine ⟨w, _, w', hw, hps.derives_fill hστ hfg, hw', ?_⟩
    simp

/-! ### Texts of values without placeholders -/

variable {g : Grammar}

/-- A text of a value holds no placeholder just when no name and no string of the value does. -/
theorem asksNothing_iff_of_writes (hσ : Tame σ) {v : Json} {text : List Char}
    (h : Writes σ v text) :
    g.AsksNothing text ↔
      ∀ s, .name s ∈ v.leaves ∨ .text s ∈ v.leaves → g.AsksNothing s.toList := by
  rw [asksNothing_iff, (exists_holds_of_writes (isFinder_find g) hσ h).1, List.flatMap_eq_nil_iff]
  constructor
  · rintro hleaves s (hs | hs)
    · exact asksNothing_iff.mpr (hleaves _ hs)
    · exact asksNothing_iff.mpr (hleaves _ hs)
  · intro hnothing leaf hleaf
    cases leaf with
    | name s => exact asksNothing_iff.mp (hnothing s (.inl hleaf))
    | text s => exact asksNothing_iff.mp (hnothing s (.inr hleaf))
    | number n => rfl

end Issuance.Placeholder

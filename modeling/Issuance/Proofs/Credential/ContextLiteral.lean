import Issuance.Credential.Render
import Issuance.Proofs.Json.Grammar
import Issuance.Proofs.Placeholder.Spelled

/-! # The context in a text

    The string that stands for the context is looked for in a template text letter by letter, quotes
    included. Where no name holds a dollar sign it is found just where a string ends in the name of
    the context: behind its opening quote, when the name is the whole string, or behind an escaped
    quote in it. Putting the context in then gives a text of the value with the context for the name
    in these strings. Where no string but the name itself holds a dollar sign, only that string is
    met. -/

namespace Issuance

open Json (Spelling Literal Derives Phrase Leaf Blank Lead Writes)
open Text (Piece Stops pieces fillPieces)

/-- A string with the context for the name of it, if there is a context. -/
def putContext (context : Option String) (s : String) : String :=
  match context with
  | some c => if s = Template.contextName then c else s
  | none => s

theorem putContext_of_no_dollar {context : Option String} {s : String} (h : '$' ∉ s.toList) :
    putContext context s = s := by
  cases context with
  | none => rfl
  | some c =>
    refine if_neg ?_
    rintro rfl
    exact h (by decide)

/-- A text with the context for its name, where the text ends in the name behind a quote. -/
def putBehindQuote (context : List Char) : List Char → List Char
  | [] => []
  | d :: rest =>
    d :: if d = '"' ∧ rest = Template.contextName.toList then context
      else putBehindQuote context rest

/-- A string with the context for its name, where the name is the whole string or ends it behind a
    quote. -/
def namedContext (context s : String) : String :=
  if s = Template.contextName then context
  else String.ofList (putBehindQuote context.toList s.toList)

theorem putBehindQuote_eq_self {context : List Char} : ∀ {s : List Char},
    ¬('"' :: Template.contextName.toList <:+ s) → putBehindQuote context s = s
  | [], _ => rfl
  | d :: rest, h => by
    have hhere : ¬(d = '"' ∧ rest = Template.contextName.toList) := by
      rintro ⟨rfl, rfl⟩
      exact h List.suffix_rfl
    rw [putBehindQuote, if_neg hhere,
      putBehindQuote_eq_self fun hrest => h (hrest.trans (List.suffix_cons d rest))]

/-- A string that does not end in the name of the context keeps what it holds. -/
theorem namedContext_eq_self {context s : String}
    (h : ¬('"' :: Template.contextName.toList <:+ '"' :: s.toList)) : namedContext context s = s := by
  have hne : s ≠ Template.contextName := by
    rintro rfl
    exact h List.suffix_rfl
  rw [namedContext, if_neg hne, putBehindQuote_eq_self fun hs => h (hs.trans (List.suffix_cons _ _)),
    String.ofList_toList]

/-- A leaf with no dollar sign but in a string that is the name of the context. -/
def Json.Leaf.NamesContextOnly : Leaf → Prop
  | .name s => '$' ∉ s.toList
  | .text s => s = Template.contextName ∨ '$' ∉ s.toList
  | .number _ => True

/-- Where no other string holds a dollar sign, the context is put in for its name alone. -/
theorem namedContext_eq_putContext {context s : String} (h : (Json.Leaf.text s).NamesContextOnly) :
    namedContext context s = putContext (some context) s := by
  rcases h with rfl | hs
  · rfl
  · rw [putContext_of_no_dollar hs]
    refine namedContext_eq_self fun hends => hs ?_
    have hmem : '$' ∈ '"' :: s.toList := hends.subset (by decide)
    simpa using hmem

/-- The spellings of a text whose context was put in: short ones, and those of a printer. -/
def Json.Spelling.Mixed : Spelling := fun c w => Spelling.Short c w ∨ Spelling.Canonical c w

namespace Template

/-- What looks for the string that stands for the context. -/
def seekContext : List Char → Option (Text.Match Unit) := Text.literal contextLiteral

/-- A stretch of a text that starts with no dollar sign and falls into the same pieces before any
    text that starts with none. -/
def SplitsInto (s : List Char) (ps : List (Piece Unit)) : Prop :=
  ∀ t, Stops (· == '$') t →
    Stops (· == '$') (s ++ t) ∧ pieces seekContext (s ++ t) = ps ++ pieces seekContext t

variable {ph : Phrase} {s t w lit : List Char} {ps qs : List (Piece Unit)} {c : String}

/-! ### Stretches -/

theorem SplitsInto.append (h : SplitsInto s ps) (h' : SplitsInto t qs) :
    SplitsInto (s ++ t) (ps ++ qs) := by
  intro u hu
  obtain ⟨hstops', hpieces'⟩ := h' u hu
  obtain ⟨hstops, hpieces⟩ := h (t ++ u) hstops'
  rw [List.append_assoc]
  exact ⟨hstops, by rw [hpieces, hpieces', List.append_assoc]⟩

theorem contextLiteral_eq :
    contextLiteral = ['"', '$', 'c', 'o', 'n', 't', 'e', 'x', 't', '"'] := by decide

/-- Nothing is found at a character before a text that starts with no dollar sign. -/
theorem seekContext_eq_none {d : Char} (h : Stops (· == '$') t) : seekContext (d :: t) = none := by
  rw [seekContext, Text.literal, if_neg]
  intro hstarts
  rw [List.isPrefixOf_iff_prefix, contextLiteral_eq, List.cons_prefix_cons] at hstarts
  obtain ⟨u, rfl⟩ := hstarts.2
  simp at h

/-- A text without a dollar sign is all characters. -/
theorem splitsInto_of_no_dollar : ∀ {s : List Char}, '$' ∉ s → SplitsInto s (s.map .char)
  | [], _ => fun _ ht => ⟨ht, rfl⟩
  | d :: rest, h => by
    intro t ht
    rw [List.mem_cons, not_or] at h
    obtain ⟨hstops, hpieces⟩ := splitsInto_of_no_dollar h.2 t ht
    refine ⟨Text.stops_cons.mpr (by simpa using fun heq => h.1 heq.symm), ?_⟩
    rw [List.cons_append, Text.pieces_cons_of_none (seekContext_eq_none hstops), hpieces]
    rfl

theorem splitsInto_blank (h : Blank w) : SplitsInto w (w.map .char) :=
  splitsInto_of_no_dollar fun hmem => absurd (h _ hmem) (by decide)

theorem splitsInto_lead {first : Bool} (h : Lead first w) : SplitsInto w (w.map .char) := by
  refine splitsInto_of_no_dollar fun hmem => ?_
  rcases h.isSpace_or_comma hmem with hspace | hcomma
  · exact absurd hspace (by decide)
  · exact absurd hcomma (by decide)

/-- The string that stands for the context is found. -/
theorem splitsInto_contextLiteral : SplitsInto contextLiteral [.hit ()] := by
  intro t _
  have hsome : seekContext (contextLiteral ++ t) = some ⟨contextLiteral.length, ()⟩ := by
    rw [seekContext, Text.literal, if_pos (List.isPrefixOf_iff_prefix.mpr ⟨t, rfl⟩)]
  rw [contextLiteral_eq] at hsome ⊢
  refine ⟨Text.stops_cons.mpr (by decide), ?_⟩
  rw [List.cons_append] at hsome ⊢
  rw [Text.pieces_cons_of_some hsome]
  rfl

/-- A short spelling brings in no dollar sign. -/
theorem not_mem_literal (h : Literal .Short s lit) (hs : '$' ∉ s) : '$' ∉ lit := by
  induction h with
  | nil => exact hs
  | cons hc _ ih =>
    rw [List.mem_cons, not_or] at hs
    rw [List.mem_append, not_or]
    refine ⟨?_, ih hs.2⟩
    cases hc with
    | raw _ _ _ => simpa using hs.1
    | @short e _ he =>
      have hnone : Json.unescape '$' = none := by decide
      simp only [List.mem_cons, List.not_mem_nil, or_false, not_or]
      refine ⟨by decide, ?_⟩
      rintro rfl
      rw [hnone] at he
      cases he

/-! ### Strings -/

theorem seekContext_of_ne {d : Char} (h : d ≠ '"') (t : List Char) :
    seekContext (d :: t) = none := by
  rw [seekContext, contextLiteral_eq]
  exact Text.literal_eq_none_of_ne h.symm

/-- A literal that goes on with a word up to its closing quote spells the word and nothing else. -/
theorem eq_of_starts_literal (h : Literal .Short s lit) : ∀ {word : List Char},
    (∀ c ∈ word, Placeholder.isSlotChar c = true) → word ++ ['"'] <+: lit ++ '"' :: t →
      s = word := by
  have hno : ∀ {c : Char} {word : List Char}, (∀ d ∈ c :: word, Placeholder.isSlotChar d = true) →
      Placeholder.isSlotChar c ≠ false := fun hword hc => by simp [hc] at hword
  induction h with
  | nil =>
    intro word hword hstarts
    cases word with
    | nil => rfl
    | cons d word =>
      obtain ⟨rfl, -⟩ := List.cons_prefix_cons.mp hstarts
      exact absurd (by decide) (hno hword)
  | cons hc _ ih =>
    intro word hword hstarts
    cases hc with
    | raw hquote _ _ =>
      cases word with
      | nil => exact absurd (List.cons_prefix_cons.mp hstarts).1.symm hquote
      | cons d word =>
        obtain ⟨rfl, hrest⟩ := List.cons_prefix_cons.mp hstarts
        rw [ih (fun e he => hword e (List.mem_cons_of_mem d he)) hrest]
    | short _ =>
      cases word with
      | nil => exact absurd (List.cons_prefix_cons.mp hstarts).1 (by decide)
      | cons d word =>
        obtain ⟨rfl, -⟩ := List.cons_prefix_cons.mp hstarts
        exact absurd (by decide) (hno hword)

/-- Behind a quote the string that stands for the context is found where the literal spells the name
    of it, and nowhere else. -/
theorem pieces_quoted (h : Literal .Short s lit) (ht : Stops (· == '$') t) :
    pieces seekContext ('"' :: (lit ++ '"' :: t)) =
      if s = contextName.toList then .hit () :: pieces seekContext t
      else .char '"' :: pieces seekContext (lit ++ '"' :: t) := by
  have hslots : ∀ c ∈ contextName.toList, Placeholder.isSlotChar c = true :=
    Text.forall_mem_of_all (by decide)
  split
  · next hname =>
    subst hname
    rw [Placeholder.literal_eq_self Placeholder.tame_short h hslots]
    exact (splitsInto_contextLiteral t ht).2
  · next hname =>
    refine Text.pieces_cons_of_none ?_
    rw [seekContext, Option.eq_none_iff_forall_ne_some]
    intro m hm
    have hliteral : contextLiteral = '"' :: (contextName.toList ++ ['"']) := by decide
    have hstarts := (Text.literal_eq_some_iff.mp hm).1
    rw [hliteral] at hstarts
    exact hname (eq_of_starts_literal h hslots (List.cons_prefix_cons.mp hstarts).2)

/-- Within a literal the context is put in for its name behind an escaped quote, up to the closing
    quote of the literal. The induction is on the literal: behind its opening quote the walk meets
    one spelled character after the other, and an escaped quote starts the search once more. -/
theorem exists_pieces_literal (h : Literal .Short s lit) (c : String) :
    ∃ ps lit', (∀ t, Stops (· == '$') t →
        pieces seekContext (lit ++ '"' :: t) = ps ++ pieces seekContext t) ∧
      fillPieces (fun _ => Json.quote c.toList) ps = lit' ++ ['"'] ∧
      Literal .Mixed (putBehindQuote c.toList s) lit' := by
  induction h with
  | nil =>
    refine ⟨[.char '"'], [], fun t ht => ?_, rfl, .nil⟩
    exact Text.pieces_cons_of_none (seekContext_eq_none ht)
  | @cons d w s lit hd hlit ih =>
    obtain ⟨ps, lit', hpieces, hfill, hlit'⟩ := ih
    have hon : ¬(d = '"' ∧ s = contextName.toList) →
        Literal .Mixed (putBehindQuote c.toList (d :: s)) (w ++ lit') := fun hnot => by
      rw [putBehindQuote, if_neg hnot]
      exact .cons (.inl hd) hlit'
    cases hd with
    | raw hquote _ _ =>
      refine ⟨.char d :: ps, _, fun t ht => ?_, ?_, hon fun h => hquote h.1⟩
      · rw [List.append_assoc, List.singleton_append,
          Text.pieces_cons_of_none (seekContext_of_ne hquote _), hpieces t ht, List.cons_append]
      · rw [fillPieces, hfill]
        rfl
    | @short e _ he =>
      have hslash : ∀ t, pieces seekContext ('\\' :: t) = .char '\\' :: pieces seekContext t :=
        fun t => Text.pieces_cons_of_none (seekContext_of_ne (by decide) t)
      by_cases hquote : e = '"'
      · subst hquote
        obtain rfl : '"' = d := Option.some.inj he
        by_cases hname : s = contextName.toList
        · refine ⟨[.char '\\', .hit ()], '\\' :: '"' :: Json.escape c.toList,
            fun t ht => ?_, ?_, ?_⟩
          · rw [List.append_assoc, List.cons_append, List.cons_append, List.nil_append, hslash,
              pieces_quoted hlit ht, if_pos hname]
            rfl
          · simp [fillPieces, Json.quote]
          · rw [putBehindQuote, if_pos ⟨rfl, hname⟩]
            exact .cons (w := ['\\', '"']) (.inl (.short he))
              ((Literal.escape c.toList).mono fun _ _ => .inr)
        · refine ⟨.char '\\' :: .char '"' :: ps, _, fun t ht => ?_, ?_, hon fun h => hname h.2⟩
          · rw [List.append_assoc, List.cons_append, List.cons_append, List.nil_append, hslash,
              pieces_quoted hlit ht, if_neg hname, hpieces t ht]
            rfl
          · rw [fillPieces, fillPieces, hfill]
            rfl
      · have hd : d ≠ '"' := by
          rintro rfl
          unfold Json.unescape at he
          split_ifs at he
          all_goals cases he
        refine ⟨.char '\\' :: .char e :: ps, _, fun t ht => ?_, ?_, hon fun h => hd h.1⟩
        · rw [List.append_assoc, List.cons_append, List.cons_append, List.nil_append, hslash,
            Text.pieces_cons_of_none (seekContext_of_ne hquote _), hpieces t ht]
          rfl
        · rw [fillPieces, fillPieces, hfill]
          rfl

/-- A literal in its quotes. -/
theorem exists_splitsInto_quoted (h : Literal .Short s lit) (c : String) :
    ∃ ps, SplitsInto ('"' :: (lit ++ ['"'])) ps ∧
      Derives .Mixed (.value (.string (namedContext c (String.ofList s))))
        (fillPieces (fun _ => Json.quote c.toList) ps) := by
  obtain ⟨ps, lit', hpieces, hfill, hlit'⟩ := exists_pieces_literal h c
  have hstops : ∀ t, Stops (· == '$') ('"' :: t) := fun _ => Text.stops_cons.mpr (by decide)
  have happend : ∀ t, '"' :: (lit ++ ['"']) ++ t = '"' :: (lit ++ '"' :: t) := fun t => by simp
  have hiff : String.ofList s = contextName ↔ s = contextName.toList := by
    rw [← String.toList_inj, String.toList_ofList]
  rw [namedContext, String.toList_ofList]
  by_cases hname : s = contextName.toList
  · refine ⟨[.hit ()], fun t ht => ⟨hstops _, ?_⟩, ?_⟩
    · rw [happend, pieces_quoted h ht, if_pos hname]
      rfl
    · rw [if_pos (hiff.mpr hname)]
      have hescape : Literal .Mixed c.toList (Json.escape c.toList) :=
        (Literal.escape c.toList).mono fun _ _ => .inr
      have hquote := Derives.string hescape
      rw [String.ofList_toList] at hquote
      simpa [fillPieces, Json.quote] using hquote
  · refine ⟨.char '"' :: ps, fun t ht => ⟨hstops _, ?_⟩, ?_⟩
    · rw [happend, pieces_quoted h ht, if_neg hname, hpieces t ht, List.cons_append]
    · rw [if_neg (mt hiff.mp hname), fillPieces, hfill]
      exact .string hlit'

/-! ### Texts -/

/-- The context put into a text of a phrase gives a text of the phrase with the context put into its
    strings. -/
theorem exists_splitsInto (h : Derives .Short ph s)
    (hnames : ∀ name, Leaf.name name ∈ ph.leaves → '$' ∉ name.toList) (c : String) :
    ∃ ps, SplitsInto s ps ∧
      Derives .Mixed (ph.mapTexts id (namedContext c))
        (fillPieces (fun _ => Json.quote c.toList) ps) := by
  induction h with
  | null =>
    refine ⟨_, splitsInto_of_no_dollar (by decide), ?_⟩
    rw [Text.fillPieces_map_char]
    exact .null
  | bool b =>
    refine ⟨_, splitsInto_of_no_dollar (by cases b <;> decide), ?_⟩
    rw [Text.fillPieces_map_char]
    exact .bool b
  | number hn =>
    refine ⟨_, splitsInto_of_no_dollar fun hmem => ?_, ?_⟩
    · exact absurd (hn.forall_isNumeric '$' hmem) (by decide)
    · rw [Text.fillPieces_map_char]
      exact .number hn
  | string hlit =>
    exact exists_splitsInto_quoted hlit c
  | array _ ih =>
    obtain ⟨ps, hsplits, hps⟩ := ih hnames
    exact ⟨_, (splitsInto_of_no_dollar (s := ['[']) (by decide)).append hsplits, .array hps⟩
  | object _ ih =>
    obtain ⟨ps, hsplits, hps⟩ := ih hnames
    exact ⟨_, (splitsInto_of_no_dollar (s := ['{']) (by decide)).append hsplits, .object hps⟩
  | lastItem hw =>
    refine ⟨_, (splitsInto_blank hw).append (splitsInto_of_no_dollar (by decide)), ?_⟩
    rw [Text.fillPieces_append, Text.fillPieces_map_char, Text.fillPieces_map_char]
    exact .lastItem hw
  | item hw _ _ ihv ihvs =>
    obtain ⟨ps, hsplits, hps⟩ := ihv fun name hl => hnames name (List.mem_append_left _ hl)
    obtain ⟨qs, hsplits', hqs⟩ := ihvs fun name hl => hnames name (List.mem_append_right _ hl)
    refine ⟨_, (splitsInto_lead hw).append (hsplits.append hsplits'), ?_⟩
    rw [Text.fillPieces_append, Text.fillPieces_append, Text.fillPieces_map_char]
    exact .item hw hps hqs
  | lastMember hw =>
    refine ⟨_, (splitsInto_blank hw).append (splitsInto_of_no_dollar (by decide)), ?_⟩
    rw [Text.fillPieces_append, Text.fillPieces_map_char, Text.fillPieces_map_char]
    exact .lastMember hw
  | @member _ v ms w name lit w₁ w₂ s t hw hlit hw₁ hw₂ _ _ ihv ihms =>
    obtain ⟨ps, hsplits, hps⟩ := ihv fun name hl =>
      hnames name (List.mem_cons_of_mem _ (List.mem_append_left _ hl))
    obtain ⟨qs, hsplits', hqs⟩ := ihms fun name hl =>
      hnames name (List.mem_cons_of_mem _ (List.mem_append_right _ hl))
    have hname : '$' ∉ name := by simpa using hnames _ List.mem_cons_self
    have hquoted : '$' ∉ '"' :: (lit ++ ['"']) := by simpa using not_mem_literal hlit hname
    have hall := (splitsInto_lead hw).append <| (splitsInto_of_no_dollar hquoted).append <|
      (splitsInto_blank hw₁).append <| (splitsInto_of_no_dollar (s := [':']) (by decide)).append <|
      (splitsInto_blank hw₂).append <| hsplits.append hsplits'
    refine ⟨_, by simpa using hall, ?_⟩
    have hmember := Derives.member hw (hlit.mono fun _ _ => .inl) hw₁ hw₂ hps hqs
    simpa [fillPieces, Phrase.mapTexts, Json.mapMembers] using hmember

/-- A text with the context put in is a text of the value with the context for its name. -/
theorem writes_replace_named {v : Json} {text : List Char} (h : Writes .Short v text)
    (hnames : ∀ name, Leaf.name name ∈ v.leaves → '$' ∉ name.toList) (c : String) :
    Writes .Mixed (v.mapTexts id (namedContext c))
      (Text.replace contextLiteral (Json.quote c.toList) text) := by
  obtain ⟨w, s, w', hw, hs, hw', rfl⟩ := h
  obtain ⟨ps, hsplits, hps⟩ := exists_splitsInto hs hnames c
  have hall := (splitsInto_blank hw).append (hsplits.append (splitsInto_blank hw'))
  have hpieces := (hall [] Text.stops_nil).2
  rw [List.append_nil, Text.pieces_nil, List.append_nil] at hpieces
  refine ⟨w, _, w', hw, hps, hw', ?_⟩
  rw [Text.replace, ← seekContext, hpieces, Text.fillPieces_append, Text.fillPieces_append,
    Text.fillPieces_map_char, Text.fillPieces_map_char]

/-- The text of a template with the context put in, where the names and strings allow it. -/
theorem writes_replace_context {v : Json} {text : List Char} (h : Writes .Short v text)
    (hleaves : ∀ leaf ∈ v.leaves, leaf.NamesContextOnly) (c : String) :
    Writes .Mixed (v.mapTexts id (putContext (some c)))
      (Text.replace contextLiteral (Json.quote c.toList) text) := by
  have hagree : v.mapTexts id (namedContext c) = v.mapTexts id (putContext (some c)) := by
    refine Json.mapTexts_congr fun leaf hleaf => ?_
    cases leaf with
    | name _ => rfl
    | number _ => rfl
    | text s => exact congrArg Leaf.text (namedContext_eq_putContext (hleaves _ hleaf))
  rw [← hagree]
  exact writes_replace_named h (fun name hname => hleaves _ hname) c

end Template
end Issuance

import Issuance.Proofs.Placeholder.Filling
import Mathlib.Data.List.Infix

/-! # One walk for all placeholders

    Filling walks a text three times: for the time, for the id, and for all other placeholders. One
    walk could do all three, writing what stands for each placeholder as it comes to it. Where two
    opening braces always open a placeholder both give the same text, since what the first two walks
    put in brings in no brace: two braces stand next to each other only where they did before. What
    the last walk puts in is not walked over again, whatever it holds. -/

namespace Issuance.Placeholder

open Text (Match pieces fillPieces)

/-- A text in which two opening braces always open a placeholder. -/
def WellOpened (g : Grammar) (s : List Char) : Prop :=
  ∀ t, t <:+ s → opening <+: t → ∃ path, g.HasPath path ∧ ofPath path <+: t

/-- What stands for a placeholder: the time, the id, or the value under its path, if it has one. -/
def standIn (escaping : Escaping) (b : Builtins) (scope : Json.Object) (path : List Char) :
    List Char :=
  if path = "now".toList then b.now
  else if path = "uuid".toList then b.uuid
  else fill escaping scope path

/-- One walk over a text from the left: a placeholder gives way to what stands for it, and the walk
    goes on behind it; every other character is copied. -/
inductive Walked (g : Grammar) (put : List Char → List Char) : List Char → List Char → Prop
  | nil : Walked g put [] []
  | char {c : Char} {s t : List Char} : (∀ path, g.HasPath path → ¬ofPath path <+: c :: s) →
      Walked g put s t → Walked g put (c :: s) (c :: t)
  | placeholder {path s t : List Char} : g.HasPath path → Walked g put s t →
      Walked g put (ofPath path ++ s) (put path ++ t)

variable {α : Type} {find : List Char → Option (Match α)} {g : Grammar} {escaping : Escaping}
  {b : Builtins} {scope : Json.Object} {c : Char} {path s t : List Char}

/-! ### Well opened texts -/

theorem WellOpened.of_suffix (h : WellOpened g s) (ht : t <:+ s) : WellOpened g t :=
  fun u hu => h u (hu.trans ht)

/-- A text is well opened when a path is found at each of its opening braces. -/
theorem wellOpened_iff :
    WellOpened g s ↔ ∀ t ∈ s.tails, opening <+: t → (path? g t).isSome = true := by
  simp only [WellOpened, List.mem_tails, Option.isSome_iff_exists, path?_eq_some_iff]

instance (g : Grammar) (s : List Char) : Decidable (WellOpened g s) :=
  decidable_of_iff _ wellOpened_iff.symm

/-- At a character that is copied no two braces open. -/
theorem WellOpened.not_opening (h : WellOpened g (c :: s))
    (hnone : ∀ path, g.HasPath path → ¬ofPath path <+: c :: s) : ¬opening <+: c :: s := by
  intro hopen
  obtain ⟨path, hpath, hstarts⟩ := h _ List.suffix_rfl hopen
  exact hnone path hpath hstarts

/-! ### The walk -/

/-- What holds of the empty text, and is kept when a character that starts no placeholder or a
    placeholder is put in front, holds of every text. The induction is on the length of the text,
    since a placeholder is passed over in one step. -/
theorem Grammar.walk_induction (g : Grammar) {motive : List Char → Prop} (nil : motive [])
    (char : ∀ c s, (∀ path, g.HasPath path → ¬ofPath path <+: c :: s) → motive s → motive (c :: s))
    (placeholder : ∀ path s, g.HasPath path → motive s → motive (ofPath path ++ s)) :
    ∀ s, motive s
  | [] => nil
  | c :: s => by
    by_cases hfound : ∃ path, g.HasPath path ∧ ofPath path <+: c :: s
    · obtain ⟨path, hpath, rest, hrest⟩ := hfound
      have hshorter : rest.length < s.length + 1 := by
        have hlength := congrArg List.length hrest
        rw [List.length_append, length_ofPath, List.length_cons] at hlength
        omega
      rw [← hrest]
      exact placeholder path rest hpath (g.walk_induction nil char placeholder rest)
    · refine char c s (fun path hpath hstarts => hfound ⟨path, hpath, hstarts⟩) ?_
      exact g.walk_induction nil char placeholder s
  termination_by s => s.length

/-- Every text can be walked. -/
theorem exists_walked (g : Grammar) (put : List Char → List Char) (s : List Char) :
    ∃ t, Walked g put s t := by
  induction s using g.walk_induction with
  | nil => exact ⟨[], .nil⟩
  | char c s hnone ih =>
    obtain ⟨t, ht⟩ := ih
    exact ⟨c :: t, .char hnone ht⟩
  | placeholder path s hpath ih =>
    obtain ⟨t, ht⟩ := ih
    exact ⟨put path ++ t, .placeholder hpath ht⟩

/-! ### One character of a text that is filled -/

/-- A character at which no two braces open is copied, and no two braces open at it afterwards. -/
theorem IsFinder.fillPieces_cons (hf : IsFinder find) (f : α → List Char)
    (h : ¬opening <+: c :: s) :
    fillPieces f (pieces find (c :: s)) = c :: fillPieces f (pieces find s) ∧
      ¬opening <+: c :: fillPieces f (pieces find s) := by
  refine ⟨by rw [Text.pieces_cons_of_none (hf.find_eq_none h), fillPieces], fun hopen => ?_⟩
  obtain ⟨rfl, hsecond⟩ := List.cons_prefix_cons.mp hopen
  cases s with
  | nil => cases List.prefix_nil.mp hsecond
  | cons d rest =>
    have hd : '{' ≠ d := by
      rintro rfl
      exact h ⟨rest, rfl⟩
    have hnone : ¬opening <+: d :: rest := fun hstarts => hd (List.cons_prefix_cons.mp hstarts).1
    rw [Text.pieces_cons_of_none (hf.find_eq_none hnone), fillPieces] at hsecond
    exact hd (List.cons_prefix_cons.mp hsecond).1

theorem fillAll_cons (h : ¬opening <+: c :: s) :
    fillAll g escaping b scope (c :: s) = c :: fillAll g escaping b scope s := by
  obtain ⟨hnow, hnow'⟩ := isFinder_now.fillPieces_cons (fun _ => b.now) h
  obtain ⟨huuid, huuid'⟩ := isFinder_uuid.fillPieces_cons (fun _ => b.uuid) hnow'
  have hpaths := ((isFinder_find g).fillPieces_cons (fill escaping scope) huuid').1
  rw [fillAll, fillBuiltins, Text.replace, Text.replace, hnow, huuid]
  exact hpaths

/-! ### One placeholder of a text that is filled -/

theorem IsFinder.fillPieces_append_of_no_brace (hf : IsFinder find) (f : α → List Char)
    (h : '{' ∉ s) (t : List Char) :
    fillPieces f (pieces find (s ++ t)) = s ++ fillPieces f (pieces find t) := by
  rw [hf.pieces_append_of_no_brace t h, Text.fillPieces_append, Text.fillPieces_map_char]

/-- A placeholder that is not reserved is filled by itself, whatever stands around it and whatever
    its value holds. -/
theorem fillAll_ofPath (hpath : g.HasPath path) (hnow : "now".toList ≠ path)
    (huuid : "uuid".toList ≠ path) (s t : List Char) :
    fillAll g escaping b scope (s ++ (ofPath path ++ t)) = fillAll g escaping b scope s ++
      (fill escaping scope path ++ fillAll g escaping b scope t) := by
  rw [fillAll, fillBuiltins_ofPath b hpath.unbraced hnow huuid, fillPaths_ofPath hpath]
  rfl

theorem fillAll_now (h : '{' ∉ b.now) (t : List Char) :
    fillAll g escaping b scope (nowPlaceholder ++ t) = b.now ++ fillAll g escaping b scope t := by
  have hreplace : Text.replace nowPlaceholder b.now ([] ++ (nowPlaceholder ++ t)) = _ :=
    replace_ofPath (by decide) (by decide) [] t
  rw [List.nil_append, Text.replace_nil, List.nil_append] at hreplace
  rw [fillAll, fillBuiltins, hreplace, Text.replace,
    isFinder_uuid.fillPieces_append_of_no_brace _ h]
  exact (isFinder_find g).fillPieces_append_of_no_brace _ h _

theorem fillAll_uuid (h : '{' ∉ b.uuid) (t : List Char) :
    fillAll g escaping b scope (uuidPlaceholder ++ t) =
      b.uuid ++ fillAll g escaping b scope t := by
  have hbuiltins := fillBuiltins_uuid b [] t
  rw [List.nil_append, fillBuiltins_nil, List.nil_append] at hbuiltins
  rw [fillAll, hbuiltins]
  exact (isFinder_find g).fillPieces_append_of_no_brace _ h _

/-- At the head of a text every placeholder gives way to what stands for it. -/
theorem fillAll_placeholder (hnow : '{' ∉ b.now) (huuid : '{' ∉ b.uuid) (hpath : g.HasPath path)
    (t : List Char) : fillAll g escaping b scope (ofPath path ++ t) =
      standIn escaping b scope path ++ fillAll g escaping b scope t := by
  rw [standIn]
  split_ifs with hisNow hisUuid
  · rw [hisNow]
    exact fillAll_now hnow t
  · rw [hisUuid]
    exact fillAll_uuid huuid t
  · exact fillAll_ofPath hpath (Ne.symm hisNow) (Ne.symm hisUuid) [] t

/-! ### Both ways to fill a text -/

/-- What the walk writes is what filling makes. The induction is on the walk; behind each of its
    steps the text is well opened again. -/
theorem Walked.eq_fillAll (h : Walked g (standIn escaping b scope) s t) (hnow : '{' ∉ b.now)
    (huuid : '{' ∉ b.uuid) (hopened : WellOpened g s) : t = fillAll g escaping b scope s := by
  induction h with
  | nil => rfl
  | @char c s _ hnone _ ih =>
    rw [fillAll_cons (hopened.not_opening hnone), ih (hopened.of_suffix (List.suffix_cons c s))]
  | placeholder hpath _ ih =>
    rw [fillAll_placeholder hnow huuid hpath, ih (hopened.of_suffix (List.suffix_append _ _))]

/-- Where two opening braces always open a placeholder, filling a text in three walks comes to one
    walk that writes the time, the id, or the value under the path for each placeholder. Wherever a
    value comes in, it stands between the fillings of what stood around its placeholder: it is not
    looked at again, and makes no placeholder with them. -/
theorem walked_iff_eq_fillAll (g : Grammar) (escaping : Escaping) (b : Builtins)
    (scope : Json.Object) (content : List Char) (hnow : '{' ∉ b.now) (huuid : '{' ∉ b.uuid)
    (hopened : WellOpened g content) :
    (∀ out, Walked g (standIn escaping b scope) content out ↔
      out = fillAll g escaping b scope content) ∧
    ∀ before path behind, content = before ++ (ofPath path ++ behind) → g.HasPath path →
      "now".toList ≠ path → "uuid".toList ≠ path →
        fillAll g escaping b scope content = fillAll g escaping b scope before ++
          (fill escaping scope path ++ fillAll g escaping b scope behind) := by
  constructor
  · refine fun out => ⟨fun h => h.eq_fillAll hnow huuid hopened, ?_⟩
    rintro rfl
    obtain ⟨t, ht⟩ := exists_walked g (standIn escaping b scope) content
    rwa [← ht.eq_fillAll hnow huuid hopened]
  · rintro before path behind rfl hpath hneNow hneUuid
    exact fillAll_ofPath hpath hneNow hneUuid before behind

/-- A value that opens a placeholder with the text behind it, or holds one, is left as it is. -/
theorem walked_iff_eq_fillAll_specimen :
    Walked {} (standIn .verbatim ⟨['9'], ['7']⟩
        [("a", .string r"{{"), ("b", .string r"{{now}}")])
      r"{{a}}now}} {{now}} {{b}}".toList
      r"{{now}} 9 {{now}}".toList := by
  refine ((walked_iff_eq_fillAll {} .verbatim ⟨['9'], ['7']⟩ _ _ (by decide) (by decide) ?_).1
    _).mpr ?_
  · decide +kernel
  · decide +kernel

end Issuance.Placeholder

import Issuance.Json.Decoder
import Issuance.Proofs.Json.Compact
import Issuance.Proofs.Json.Distinct

/-! # Decoders that read back what they give

    What a decoder gives can be written as JSON again. It is kept if every text of its JSON value is
    read as the same again, and if it is no deeper than the decoder was allowed to go when it gave
    it; a decoder is faithful if all that it gives is kept. The decoders of strings, truth values
    and objects are faithful, and so are those of arrays and of optional values that are made from
    faithful ones. -/

namespace Issuance.Json

open Text (Stops)

/-! ### What a reader gives -/

/-- A value that repeats no name and is no deeper than allowed. -/
def Fits (depth : Nat) (v : Json) : Prop := v.Distinct ∧ v.depth ≤ depth

theorem itemDepth_le {depth : Nat} : ∀ {vs : List Json}, (∀ v ∈ vs, v.depth ≤ depth) →
    itemDepth vs ≤ depth
  | [], _ => Nat.zero_le depth
  | _ :: _, h =>
    max_le (h _ List.mem_cons_self) (itemDepth_le fun w hw => h w (List.mem_cons_of_mem _ hw))

theorem memberDepth_le {depth : Nat} : ∀ {ms : List (String × Json)},
    (∀ m ∈ ms, m.2.depth ≤ depth) → memberDepth ms ≤ depth
  | [], _ => Nat.zero_le depth
  | (_, _) :: _, h =>
    max_le (h _ List.mem_cons_self) (memberDepth_le fun m hm => h m (List.mem_cons_of_mem _ hm))

theorem distinctMembers_of_forall : ∀ {ms : List (String × Json)}, (∀ m ∈ ms, m.2.Distinct) →
    DistinctMembers ms
  | [], _ => trivial
  | _ :: _, h =>
    ⟨h _ List.mem_cons_self, distinctMembers_of_forall fun m hm => h m (List.mem_cons_of_mem _ hm)⟩

theorem memberDepth_insert_le (name : String) (v : Json) : ∀ o : Object,
    memberDepth (o.insert name v) ≤ max v.depth (memberDepth o)
  | [] => le_refl _
  | (n, w) :: rest => by
    have hrest := memberDepth_insert_le name v rest
    rw [Object.insert]
    split_ifs
    · simp only [memberDepth]
      omega
    · simp only [memberDepth]
      omega

theorem memberDepth_overlay_le : ∀ (upper : List (String × Json)) (base : Object),
    memberDepth (Object.overlay base upper) ≤ max (memberDepth base) (memberDepth upper)
  | [], _ => le_max_left _ _
  | (n, v) :: rest, base => by
    have hinsert := memberDepth_insert_le n v base
    have hrest := memberDepth_overlay_le rest (base.insert n v)
    change memberDepth (Object.overlay (base.insert n v) rest) ≤ _
    simp only [memberDepth]
    omega

/-- Members written one after the other are no deeper for it. -/
theorem memberDepth_ofMembers_le (ms : List (String × Json)) :
    memberDepth (Object.ofMembers ms) ≤ memberDepth ms :=
  (memberDepth_overlay_le ms []).trans (max_le (Nat.zero_le _) (le_refl _))

mutual

/-- A merged value is no deeper than it was written. -/
theorem depth_merged_le : ∀ v : Json, v.merged.depth ≤ v.depth
  | .null => le_refl _
  | .bool _ => le_refl _
  | .number _ => le_refl _
  | .string _ => le_refl _
  | .array items => Nat.succ_le_succ (itemDepth_mergedItems_le items)
  | .object members => Nat.succ_le_succ <|
    (memberDepth_ofMembers_le (mergedMembers members)).trans (memberDepth_mergedMembers_le members)

theorem itemDepth_mergedItems_le : ∀ items : List Json,
    itemDepth (mergedItems items) ≤ itemDepth items
  | [] => le_refl _
  | v :: rest => max_le_max (depth_merged_le v) (itemDepth_mergedItems_le rest)

theorem memberDepth_mergedMembers_le : ∀ members : List (String × Json),
    memberDepth (mergedMembers members) ≤ memberDepth members
  | [] => le_refl _
  | (_, v) :: rest => max_le_max (depth_merged_le v) (memberDepth_mergedMembers_le rest)

end

section
variable {depth steps : Nat} {first : Bool} {v : Json} {s rest : List Char}

theorem fits_merged (h : v.depth ≤ depth) : Fits depth v.merged :=
  ⟨distinct_merged v, (depth_merged_le v).trans h⟩

/-- Members whose values fit make an object that fits, with one more level allowed. -/
theorem fits_ofMembers {ms : List (String × Json)} (h : ∀ m ∈ ms, Fits depth m.2) :
    Fits (depth + 1) (.object (Object.ofMembers ms)) := by
  refine ⟨distinct_ofMembers (distinctMembers_of_forall fun m hm => (h m hm).1), ?_⟩
  have hdepth : memberDepth ms ≤ depth := memberDepth_le fun m hm => (h m hm).2
  exact Nat.succ_le_succ ((memberDepth_ofMembers_le ms).trans hdepth)

/-- A value that fits, written into an object that allows for one more level. -/
theorem fits_insert {name : String} {o : Object} (hv : Fits depth v)
    (ho : Fits (depth + 1) (.object o)) : Fits (depth + 1) (.object (o.insert name v)) := by
  refine ⟨⟨Object.nodup_names_insert ho.1.1 name v, distinctMembers_insert hv.1 ho.1.2⟩, ?_⟩
  have hdepth : memberDepth o ≤ depth := Nat.le_of_succ_le_succ ho.2
  exact Nat.succ_le_succ ((memberDepth_insert_le name v o).trans (max_le hv.2 hdepth))

/-- A text of a value that fits is read as the value. -/
theorem parse_of_writes (h : Writes .Accepted v s) (hv : Fits depthLimit v) : parse s = .ok v :=
  parse_eq_ok_iff.mpr ⟨v, h, hv.2, merged_eq_self hv.1⟩

theorem fits_of_readItems {vs : List Json} (h : readItems steps depth first s = .ok (vs, rest)) :
    Fits (depth + 1) (.array vs) := by
  obtain ⟨_, raw, -, -, rfl, hdepth⟩ := (exists_derives_of_read steps).2.1 _ _ _ _ _ h
  exact fits_merged (v := .array raw) (Nat.succ_le_succ hdepth)

theorem fits_of_readMembers {ms : List (String × Json)}
    (h : readMembers steps depth first s = .ok (ms, rest)) :
    Fits (depth + 1) (.object (Object.ofMembers ms)) := by
  obtain ⟨_, raw, -, -, rfl, hdepth⟩ := (exists_derives_of_read steps).2.2 _ _ _ _ _ h
  exact fits_merged (v := .object raw) (Nat.succ_le_succ hdepth)

theorem fits_of_map {β : Type} {x : Except Fault β} {f : β → Json × List Char}
    (h : x.map f = .ok (v, rest)) (hf : ∀ b, Fits depth (f b).1) : Fits depth v := by
  obtain ⟨b, -, heq⟩ := map_eq_ok h
  have hb := hf b
  rwa [heq] at hb

/-- A value that is read fits, even if what follows goes on with a number. -/
theorem fits_of_readValue (h : readValue steps depth s = .ok (v, rest)) : Fits depth v := by
  cases steps with
  | zero => cases h
  | succ steps =>
    rw [readValue] at h
    split at h
    · cases h
    · split_ifs at h
      -- words, strings and numbers
      any_goals exact fits_of_map h fun _ => ⟨trivial, Nat.zero_le depth⟩
      · split at h
        · cases h
        · obtain ⟨⟨vs, r⟩, hvs, heq⟩ := map_eq_ok h
          cases heq
          exact fits_of_readItems hvs
      · split at h
        · cases h
        · obtain ⟨⟨ms, r⟩, hms, heq⟩ := map_eq_ok h
          cases heq
          exact fits_of_readMembers hms

end

/-! ### Members one by one -/

/-- The first of the members that are still to come is read as its name, a colon and, behind white
    space, its value; then come the others. -/
theorem Derives.exists_member {first : Bool} {name : String} {v : Json}
    {ms : List (String × Json)} {s : List Char}
    (h : Derives .Accepted (.members first ((name, v) :: ms)) s) (t : List Char) :
    ∃ rest chars rest' w u s', nextName first (s ++ t) = .ok (.more rest) ∧
      readString rest = .ok (chars, rest') ∧ String.ofList chars = name ∧
      readColon rest' = .ok (w ++ (u ++ (s' ++ t))) ∧ Blank w ∧ Derives .Accepted (.value v) u ∧
      Derives .Accepted (.members false ms) s' ∧ s'.length < s.length := by
  cases h with
  | @member _ _ _ w chars lit w₁ w₂ u s' hw hlit hw₁ hw₂ hv hms =>
    have hnext := nextName_lead hw (lit ++ '"' :: (w₁ ++ ':' :: (w₂ ++ (u ++ (s' ++ t)))))
    have hstring := readString_literal hlit (w₁ ++ ':' :: (w₂ ++ (u ++ (s' ++ t))))
    have hcolon := readColon_append hw₁ (w₂ ++ (u ++ (s' ++ t)))
    refine ⟨_, chars, _, w₂, u, s', ?_, hstring, rfl, hcolon, hw₂, hv, hms, ?_⟩
    · simpa only [List.append_assoc, List.cons_append] using hnext
    · simp only [List.length_append, List.length_cons]
      omega

namespace Decoder

variable {α β : Type} {inner : Decoder α} {toJson : α → Json} {v : Json} {a : α} {s t w : List Char}
  {depth : Nat}

/-! ### Reading back -/

/-- A decoder that reads every text of a value as something, behind white space and before any text
    that does not go on with a number. -/
def Reads (inner : Decoder α) (v : Json) (a : α) : Prop :=
  ∀ s w t depth, Derives .Accepted (.value v) s → Blank w → Stops isNumeric t → v.depth ≤ depth →
    inner depth (w ++ (s ++ t)) = .ok (a, t)

/-- Something that is read back from its JSON value, which is no deeper than allowed. -/
structure Keeps (inner : Decoder α) (toJson : α → Json) (depth : Nat) (a : α) : Prop where
  depth_le : (toJson a).depth ≤ depth
  reads : inner.Reads (toJson a) a

/-- A decoder that reads back whatever it gives. -/
def Faithful (inner : Decoder α) (toJson : α → Json) : Prop :=
  ∀ depth s a rest, inner depth s = .ok (a, rest) → inner.Keeps toJson depth a

theorem reads_string (s : String) : string.Reads (.string s) s := by
  intro text w t depth h hw _ _
  have hquote : isSpace '"' = false := by decide
  cases h with
  | string hlit =>
    simp [string, skipSpace_append hw, skipSpace_cons hquote, readString_literal hlit, Except.map]

theorem reads_bool (b : Bool) : bool.Reads (.bool b) b := by
  intro text w t depth h hw _ _
  cases h
  cases b with
  | true =>
    have hspace : isSpace 't' = false := by decide
    change bool depth (w ++ 't' :: ("rue".toList ++ t)) = _
    simp only [bool, skipSpace_append hw, skipSpace_cons hspace, readKeyword_append, Except.map]
    rfl
  | false =>
    have hspace : isSpace 'f' = false := by decide
    change bool depth (w ++ 'f' :: ("alse".toList ++ t)) = _
    simp only [bool, skipSpace_append hw, skipSpace_cons hspace, readKeyword_append, Except.map]
    rfl

theorem reads_value (hv : v.Distinct) : value.Reads v v := by
  intro s w t depth h hw ht hdepth
  rw [value, stepsFor, readValue_blank hw]
  have hsteps : s.length ≤ 2 * (w ++ (s ++ t)).length + 1 + 1 := by
    simp only [List.length_append]
    omega
  have hread := isRead_of_derives h _ depth t ht hdepth hsteps
  rwa [merged_eq_self hv] at hread

theorem reads_object {o : Object} (ho : (Json.object o).Distinct) :
    object.Reads (.object o) o := by
  intro s w t depth h hw ht hdepth
  have hbrace : isSpace '{' = false := by decide
  cases h with
  | @object _ s hms =>
    cases depth with
    | zero => simp [Json.depth] at hdepth
    | succ depth =>
      have hsteps : s.length ≤ stepsFor (s ++ t) := by
        simp only [stepsFor, List.length_append]
        omega
      have hread := isRead_of_derives hms _ depth t (by simpa [Json.depth] using hdepth) hsteps
      have hmerged : Object.ofMembers (mergedMembers o) = o := by
        have hself := merged_eq_self ho
        simpa [merged] using hself
      simp [object, skipSpace_append hw, skipSpace_cons hbrace, hread, Except.map, hmerged]

theorem reads_map {f : α → β} (h : inner.Reads v a) : (inner.map f).Reads v (f a) := by
  intro s w t depth hs hw ht hdepth
  rw [map, h s w t depth hs hw ht hdepth]
  rfl

theorem reads_null : (optional inner).Reads .null none := by
  intro s w t depth h hw _ _
  cases h
  have hspace : isSpace 'n' = false := by decide
  change optional inner depth (w ++ 'n' :: ("ull".toList ++ t)) = _
  simp only [optional, skipSpace_append hw, skipSpace_cons hspace, readKeyword_append, Except.map]
  rfl

theorem reads_some (hv : v ≠ .null) (h : inner.Reads v a) : (optional inner).Reads v (some a) := by
  intro s w t depth hs hw ht hdepth
  obtain ⟨c, rest, rfl, hspace, hc⟩ := hs.value_head_of_ne_null hv
  have hinner := h _ [] t depth hs blank_nil ht hdepth
  rw [List.nil_append, List.cons_append] at hinner
  rw [optional, skipSpace_append hw, List.cons_append, skipSpace_cons hspace]
  dsimp only
  rw [if_neg hc, hinner]
  rfl

theorem itemsFrom_eq_ok (t : List Char) : ∀ {as : List α} {first : Bool} {s : List Char}
    {steps : Nat}, (∀ a ∈ as, inner.Reads (toJson a) a) →
      Derives .Accepted (.items first (as.map toJson)) s →
      itemDepth (as.map toJson) ≤ depth → s.length ≤ steps →
        itemsFrom inner depth steps first (s ++ t) = .ok (as, t)
  | _, _, _, 0, _, hs, _, hsteps => by
    have hpos := List.length_pos_iff.mpr hs.ne_nil
    omega
  | [], first, s, steps + 1, _, hs, _, _ => by
    cases hs with
    | lastItem hw =>
      rw [List.append_assoc, List.singleton_append, itemsFrom, nextItem_end hw]
  | a :: as, first, s, steps + 1, h, hs, hdepth, hsteps => by
    rw [List.map_cons] at hs hdepth
    obtain ⟨hadepth, hasdepth⟩ := max_le_iff.mp hdepth
    cases hs with
    | @item _ _ _ w u u' hw ha has =>
      obtain ⟨c, rest, hu, hspace, hc⟩ := ha.value_head
      have hupos := List.length_pos_iff.mpr ha.ne_nil
      have hnext := nextItem_lead hw hspace hc (rest ++ (u' ++ t))
      have hread := h a List.mem_cons_self u [] (u' ++ t) depth ha blank_nil (has.items_stops t)
        hadepth
      simp only [List.length_append] at hsteps
      have hrest : itemsFrom inner depth steps false (u' ++ t) = .ok (as, t) :=
        itemsFrom_eq_ok t (fun b hb => h b (List.mem_cons_of_mem a hb)) has hasdepth (by omega)
      rw [← List.cons_append, ← hu] at hnext
      rw [List.append_assoc, List.append_assoc, itemsFrom, hnext]
      rw [List.nil_append] at hread
      dsimp only
      rw [hread]
      dsimp only
      rw [hrest]
      rfl

theorem reads_array {as : List α} (h : ∀ a ∈ as, inner.Reads (toJson a) a) :
    (array inner).Reads (.array (as.map toJson)) as := by
  intro s w t depth hs hw _ hdepth
  have hbracket : isSpace '[' = false := by decide
  cases hs with
  | @array _ s hitems =>
    cases depth with
    | zero => simp [Json.depth] at hdepth
    | succ depth =>
      have hsteps : s.length ≤ stepsFor (s ++ t) := by
        simp only [stepsFor, List.length_append]
        omega
      have hread := itemsFrom_eq_ok t h hitems (by simpa [Json.depth] using hdepth) hsteps
      simp [array, skipSpace_append hw, skipSpace_cons hbracket, hread]

/-! ### Faithful decoders -/

theorem keeps_string (depth : Nat) (s : String) : string.Keeps .string depth s :=
  ⟨Nat.zero_le depth, reads_string s⟩

theorem faithful_string : string.Faithful .string := fun depth _ s _ _ => keeps_string depth s

theorem faithful_object : object.Faithful .object := by
  intro depth s o rest h
  have hfits : Fits depth (.object o) := by
    rw [object] at h
    split at h
    · cases h
    · split_ifs at h
      split at h
      · cases h
      · obtain ⟨r, hr, heq⟩ := map_eq_ok h
        cases heq
        exact fits_of_readMembers hr
  exact ⟨hfits.2, reads_object hfits.1⟩

/-- What is made of a value is kept if it is written as that value. -/
theorem Faithful.map {f : α → β} {toJson' : β → Json} (h : inner.Faithful toJson)
    (hsame : ∀ a, toJson' (f a) = toJson a) : (inner.map f).Faithful toJson' := by
  intro depth s b rest hb
  obtain ⟨⟨a, r⟩, ha, heq⟩ := map_eq_ok hb
  cases heq
  obtain ⟨hdepth, hreads⟩ := h _ _ _ _ ha
  rw [← hsame a] at hdepth hreads
  exact ⟨hdepth, reads_map hreads⟩

/-- An optional value as JSON: null if there is none. -/
def orNull (toJson : α → Json) (o : Option α) : Json := (o.map toJson).getD .null

theorem Faithful.optional (h : inner.Faithful toJson) (hnull : ∀ a, toJson a ≠ .null) :
    (optional inner).Faithful (orNull toJson) := by
  have hnone : ∀ depth, (Decoder.optional inner).Keeps (orNull toJson) depth none :=
    fun depth => ⟨Nat.zero_le depth, reads_null⟩
  have hsome : ∀ {depth s r a}, inner depth s = .ok (a, r) →
      (Decoder.optional inner).Keeps (orNull toJson) depth (some a) := by
    intro depth s r a ha
    obtain ⟨hdepth, hreads⟩ := h _ _ _ _ ha
    exact ⟨hdepth, reads_some (hnull a) hreads⟩
  intro depth s o rest ho
  rw [Decoder.optional] at ho
  split at ho
  · obtain ⟨⟨a, r⟩, ha, heq⟩ := map_eq_ok ho
    cases heq
    exact hsome ha
  · split_ifs at ho
    · obtain ⟨r, -, heq⟩ := map_eq_ok ho
      cases heq
      exact hnone depth
    · obtain ⟨⟨a, r⟩, ha, heq⟩ := map_eq_ok ho
      cases heq
      exact hsome ha

theorem keeps_of_itemsFrom (h : inner.Faithful toJson) : ∀ {steps : Nat} {first : Bool}
    {s rest : List Char} {as : List α}, itemsFrom inner depth steps first s = .ok (as, rest) →
      ∀ a ∈ as, inner.Keeps toJson depth a
  | 0, _, _, _, _, hread => by cases hread
  | steps + 1, first, s, rest, as, hread => by
    rw [itemsFrom] at hread
    split at hread
    · cases hread
    · cases hread
      exact fun a ha => absurd ha List.not_mem_nil
    · split at hread
      · cases hread
      · next a _ ha =>
        obtain ⟨⟨bs, r⟩, hbs, heq⟩ := map_eq_ok hread
        cases heq
        exact List.forall_mem_cons.mpr ⟨h _ _ _ _ ha, keeps_of_itemsFrom h hbs⟩

theorem Faithful.array (h : inner.Faithful toJson) :
    (array inner).Faithful fun as => .array (as.map toJson) := by
  intro depth s as rest has
  rw [Decoder.array] at has
  split at has
  · cases has
  · split_ifs at has
    split at has
    · cases has
    · have hkeeps := keeps_of_itemsFrom h has
      refine ⟨Nat.succ_le_succ (itemDepth_le ?_), reads_array fun a ha => (hkeeps a ha).reads⟩
      exact List.forall_mem_map.mpr fun a ha => (hkeeps a ha).depth_le

/-! ### Whole texts -/

theorem exists_read_of_run {text : List Char} (h : run inner text = .ok a) :
    ∃ rest, inner depthLimit text = .ok (a, rest) := by
  rw [run, readAll] at h
  split at h
  · cases h
  · next b rest hread =>
    refine ⟨rest, ?_⟩
    cases hend : readEnd rest with
    | error f =>
      rw [hend] at h
      cases h
    | ok u =>
      rw [hend] at h
      cases h
      exact hread

/-- What a faithful decoder gives for a text is read from every text of its JSON value. -/
theorem Faithful.run_eq_ok (h : inner.Faithful toJson) {text text' : List Char}
    (hrun : run inner text = .ok a) (hwrites : Writes .Accepted (toJson a) text') :
    run inner text' = .ok a := by
  obtain ⟨w, s, w', hw, hs, hw', rfl⟩ := hwrites
  obtain ⟨rest, hread⟩ := exists_read_of_run hrun
  have hkeeps := h _ _ _ _ hread
  rw [run, readAll, hkeeps.reads _ _ _ _ hs hw hw'.stops_isNumeric hkeeps.depth_le]
  dsimp only
  rw [readEnd_eq_ok_iff.mpr hw']
  rfl

end Decoder
end Issuance.Json

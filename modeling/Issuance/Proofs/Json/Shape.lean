import Issuance.Proofs.Json.Members

/-! # The shape of a value

    What a value is made of, besides its brackets and keywords: the names of its members, its
    strings and its numbers, in the order in which they are written. Rewriting the names and the
    strings keeps the shape, so depth and numbers stay; only names that become equal let members
    fall together, and that happens when the members are written into an object again, one after the
    other. -/

namespace Issuance.Json

/-- A name, a string or a number in a value. -/
inductive Leaf where
  | name (s : String)
  | text (s : String)
  | number (n : Number)

/-- A leaf with its text rewritten. -/
def Leaf.mapTexts (onName onText : String → String) : Leaf → Leaf
  | .name s => .name (onName s)
  | .text s => .text (onText s)
  | .number n => .number n

mutual

/-- The names, strings and numbers of a value, in order. -/
def leaves : Json → List Leaf
  | .null => []
  | .bool _ => []
  | .number n => [.number n]
  | .string s => [.text s]
  | .array items => itemLeaves items
  | .object members => memberLeaves members

/-- The leaves of items, in order. -/
def itemLeaves : List Json → List Leaf
  | [] => []
  | v :: rest => leaves v ++ itemLeaves rest

/-- The leaves of members, in order. -/
def memberLeaves : List (String × Json) → List Leaf
  | [] => []
  | (n, v) :: rest => .name n :: leaves v ++ memberLeaves rest

end

mutual

/-- How many arrays and objects are open at the deepest place of a value. -/
def depth : Json → Nat
  | .null => 0
  | .bool _ => 0
  | .number _ => 0
  | .string _ => 0
  | .array items => itemDepth items + 1
  | .object members => memberDepth members + 1

/-- The depth of the deepest item. -/
def itemDepth : List Json → Nat
  | [] => 0
  | v :: rest => max (depth v) (itemDepth rest)

/-- The depth of the deepest member. -/
def memberDepth : List (String × Json) → Nat
  | [] => 0
  | (_, v) :: rest => max (depth v) (memberDepth rest)

end

mutual

/-- A value with every member name and every string rewritten. -/
def mapTexts (onName onText : String → String) : Json → Json
  | .null => .null
  | .bool b => .bool b
  | .number n => .number n
  | .string s => .string (onText s)
  | .array items => .array (mapItems onName onText items)
  | .object members => .object (mapMembers onName onText members)

/-- Items with every member name and every string rewritten. -/
def mapItems (onName onText : String → String) : List Json → List Json
  | [] => []
  | v :: rest => mapTexts onName onText v :: mapItems onName onText rest

/-- Members with every member name and every string rewritten. -/
def mapMembers (onName onText : String → String) : List (String × Json) → List (String × Json)
  | [] => []
  | (n, v) :: rest => (onName n, mapTexts onName onText v) :: mapMembers onName onText rest

end

mutual

/-- A value with the members of every object written one after the other: a name that comes again
    keeps its first place and takes its last value. -/
def merged : Json → Json
  | .null => .null
  | .bool b => .bool b
  | .number n => .number n
  | .string s => .string s
  | .array items => .array (mergedItems items)
  | .object members => .object (Object.ofMembers (mergedMembers members))

/-- Items, each of them merged. -/
def mergedItems : List Json → List Json
  | [] => []
  | v :: rest => merged v :: mergedItems rest

/-- Members, the value of each merged. -/
def mergedMembers : List (String × Json) → List (String × Json)
  | [] => []
  | (n, v) :: rest => (n, merged v) :: mergedMembers rest

end

mutual

/-- No object in a value repeats a name. -/
def Distinct : Json → Prop
  | .null => True
  | .bool _ => True
  | .number _ => True
  | .string _ => True
  | .array items => DistinctItems items
  | .object members => (Object.names members).Nodup ∧ DistinctMembers members

/-- No object in an item repeats a name. -/
def DistinctItems : List Json → Prop
  | [] => True
  | v :: rest => Distinct v ∧ DistinctItems rest

/-- No object in the value of a member repeats a name. -/
def DistinctMembers : List (String × Json) → Prop
  | [] => True
  | (_, v) :: rest => Distinct v ∧ DistinctMembers rest

end

/-! ### Rewriting keeps the shape -/

mutual

theorem depth_mapTexts (onName onText : String → String) : ∀ v : Json,
    (v.mapTexts onName onText).depth = v.depth
  | .null => rfl
  | .bool _ => rfl
  | .number _ => rfl
  | .string _ => rfl
  | .array items => by rw [mapTexts, depth, depth, itemDepth_mapItems onName onText items]
  | .object members => by rw [mapTexts, depth, depth, memberDepth_mapMembers onName onText members]

theorem itemDepth_mapItems (onName onText : String → String) : ∀ items : List Json,
    itemDepth (mapItems onName onText items) = itemDepth items
  | [] => rfl
  | v :: rest => by
    rw [mapItems, itemDepth, itemDepth, depth_mapTexts onName onText v,
      itemDepth_mapItems onName onText rest]

theorem memberDepth_mapMembers (onName onText : String → String) :
    ∀ members : List (String × Json), memberDepth (mapMembers onName onText members) =
      memberDepth members
  | [] => rfl
  | (n, v) :: rest => by
    rw [mapMembers, memberDepth, memberDepth, depth_mapTexts onName onText v,
      memberDepth_mapMembers onName onText rest]

end

mutual

theorem leaves_mapTexts (onName onText : String → String) : ∀ v : Json,
    (v.mapTexts onName onText).leaves = v.leaves.map (Leaf.mapTexts onName onText)
  | .null => rfl
  | .bool _ => rfl
  | .number _ => rfl
  | .string _ => rfl
  | .array items => by rw [mapTexts, leaves, leaves, itemLeaves_mapItems onName onText items]
  | .object members => by
    rw [mapTexts, leaves, leaves, memberLeaves_mapMembers onName onText members]

theorem itemLeaves_mapItems (onName onText : String → String) : ∀ items : List Json,
    itemLeaves (mapItems onName onText items) = (itemLeaves items).map (Leaf.mapTexts onName onText)
  | [] => rfl
  | v :: rest => by
    rw [mapItems, itemLeaves, itemLeaves, List.map_append, leaves_mapTexts onName onText v,
      itemLeaves_mapItems onName onText rest]

theorem memberLeaves_mapMembers (onName onText : String → String) :
    ∀ members : List (String × Json), memberLeaves (mapMembers onName onText members) =
      (memberLeaves members).map (Leaf.mapTexts onName onText)
  | [] => rfl
  | (n, v) :: rest => by
    rw [mapMembers, memberLeaves, memberLeaves, List.cons_append, List.cons_append, List.map_cons,
      List.map_append, leaves_mapTexts onName onText v, memberLeaves_mapMembers onName onText rest]
    rfl

end

/-- Rewriting keeps the numbers of a value. -/
theorem number_mem_leaves_mapTexts {onName onText : String → String} {v : Json} {n : Number}
    (h : Leaf.number n ∈ (v.mapTexts onName onText).leaves) : Leaf.number n ∈ v.leaves := by
  rw [leaves_mapTexts, List.mem_map] at h
  obtain ⟨leaf, hleaf, heq⟩ := h
  cases leaf with
  | name s => cases heq
  | text s => cases heq
  | number m => cases heq; exact hleaf

/-! ### Rewriting twice, alike, or not at all -/

mutual

theorem mapTexts_id : ∀ v : Json, v.mapTexts id id = v
  | .null => rfl
  | .bool _ => rfl
  | .number _ => rfl
  | .string _ => rfl
  | .array items => by rw [mapTexts, mapItems_id items]
  | .object members => by rw [mapTexts, mapMembers_id members]

theorem mapItems_id : ∀ items : List Json, mapItems id id items = items
  | [] => rfl
  | v :: rest => by rw [mapItems, mapTexts_id v, mapItems_id rest]

theorem mapMembers_id : ∀ members : List (String × Json), mapMembers id id members = members
  | [] => rfl
  | (n, v) :: rest => by rw [mapMembers, mapTexts_id v, mapMembers_id rest, id]

end

mutual

theorem mapTexts_mapTexts (f₁ g₁ f₂ g₂ : String → String) : ∀ v : Json,
    (v.mapTexts f₁ g₁).mapTexts f₂ g₂ = v.mapTexts (f₂ ∘ f₁) (g₂ ∘ g₁)
  | .null => rfl
  | .bool _ => rfl
  | .number _ => rfl
  | .string _ => rfl
  | .array items => by simp only [mapTexts, mapItems_mapItems f₁ g₁ f₂ g₂ items]
  | .object members => by simp only [mapTexts, mapMembers_mapMembers f₁ g₁ f₂ g₂ members]

theorem mapItems_mapItems (f₁ g₁ f₂ g₂ : String → String) : ∀ items : List Json,
    mapItems f₂ g₂ (mapItems f₁ g₁ items) = mapItems (f₂ ∘ f₁) (g₂ ∘ g₁) items
  | [] => rfl
  | v :: rest => by
    simp only [mapItems, mapTexts_mapTexts f₁ g₁ f₂ g₂ v, mapItems_mapItems f₁ g₁ f₂ g₂ rest]

theorem mapMembers_mapMembers (f₁ g₁ f₂ g₂ : String → String) : ∀ members : List (String × Json),
    mapMembers f₂ g₂ (mapMembers f₁ g₁ members) = mapMembers (f₂ ∘ f₁) (g₂ ∘ g₁) members
  | [] => rfl
  | (n, v) :: rest => by
    simp only [mapMembers, mapTexts_mapTexts f₁ g₁ f₂ g₂ v,
      mapMembers_mapMembers f₁ g₁ f₂ g₂ rest, Function.comp_apply]

end

/-- Two ways to rewrite texts that agree on certain leaves. -/
def AgreeOn (leaves : List Leaf) (f₁ g₁ f₂ g₂ : String → String) : Prop :=
  ∀ leaf ∈ leaves, leaf.mapTexts f₁ g₁ = leaf.mapTexts f₂ g₂

mutual

theorem mapTexts_congr {f₁ g₁ f₂ g₂ : String → String} : ∀ {v : Json},
    AgreeOn v.leaves f₁ g₁ f₂ g₂ → v.mapTexts f₁ g₁ = v.mapTexts f₂ g₂
  | .null, _ => rfl
  | .bool _, _ => rfl
  | .number _, _ => rfl
  | .string s, h => by
    have hs := h (.text s) (by simp [leaves])
    simpa [Leaf.mapTexts, mapTexts] using hs
  | .array items, h => by
    rw [mapTexts, mapTexts]
    exact congrArg Json.array (mapItems_congr h)
  | .object members, h => by
    rw [mapTexts, mapTexts]
    exact congrArg Json.object (mapMembers_congr h)

theorem mapItems_congr {f₁ g₁ f₂ g₂ : String → String} : ∀ {items : List Json},
    AgreeOn (itemLeaves items) f₁ g₁ f₂ g₂ → mapItems f₁ g₁ items = mapItems f₂ g₂ items
  | [], _ => rfl
  | v :: rest, h => by
    have hv : AgreeOn v.leaves f₁ g₁ f₂ g₂ := fun leaf hl => h leaf (by simp [itemLeaves, hl])
    have hrest : AgreeOn (itemLeaves rest) f₁ g₁ f₂ g₂ := fun leaf hl =>
      h leaf (by simp [itemLeaves, hl])
    rw [mapItems, mapItems, mapTexts_congr hv, mapItems_congr hrest]

theorem mapMembers_congr {f₁ g₁ f₂ g₂ : String → String} : ∀ {members : List (String × Json)},
    AgreeOn (memberLeaves members) f₁ g₁ f₂ g₂ →
      mapMembers f₁ g₁ members = mapMembers f₂ g₂ members
  | [], _ => rfl
  | (n, v) :: rest, h => by
    have hn : f₁ n = f₂ n := by
      simpa [Leaf.mapTexts] using h (.name n) (by simp [memberLeaves])
    have hv : AgreeOn v.leaves f₁ g₁ f₂ g₂ := fun leaf hl => h leaf (by simp [memberLeaves, hl])
    have hrest : AgreeOn (memberLeaves rest) f₁ g₁ f₂ g₂ := fun leaf hl =>
      h leaf (by simp [memberLeaves, hl])
    rw [mapMembers, mapMembers, hn, mapTexts_congr hv, mapMembers_congr hrest]

end

/-! ### Merging -/

mutual

/-- Nothing is merged where no name is repeated. -/
theorem merged_eq_self : ∀ {v : Json}, v.Distinct → v.merged = v
  | .null, _ => rfl
  | .bool _, _ => rfl
  | .number _, _ => rfl
  | .string _, _ => rfl
  | .array items, h => by rw [merged, mergedItems_eq_self h]
  | .object members, h => by
    rw [merged, mergedMembers_eq_self h.2, Object.ofMembers_eq_self h.1]

theorem mergedItems_eq_self : ∀ {items : List Json}, DistinctItems items → mergedItems items = items
  | [], _ => rfl
  | v :: rest, h => by rw [mergedItems, merged_eq_self h.1, mergedItems_eq_self h.2]

theorem mergedMembers_eq_self : ∀ {members : List (String × Json)}, DistinctMembers members →
    mergedMembers members = members
  | [], _ => rfl
  | (n, v) :: rest, h => by rw [mergedMembers, merged_eq_self h.1, mergedMembers_eq_self h.2]

end

/-- An object that was merged has distinct names. -/
theorem nodup_names_of_merged {v : Json} {members : Object} (h : v.merged = .object members) :
    members.names.Nodup := by
  cases v with
  | object written =>
    rw [merged, Json.object.injEq] at h
    exact h ▸ Object.nodup_names_ofMembers _
  | _ => simp [merged] at h

end Issuance.Json

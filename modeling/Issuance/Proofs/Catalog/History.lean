import Issuance.Proofs.Catalog.Insertion
import Issuance.Proofs.Template.Wpml
import Mathlib.Data.List.Forall2

/-! # Histories of a catalog

    A catalog is worked with one operation after the other: templates are inserted, keys are looked
    up, and its templates are gone through. An operation adds at most one template, at the end and
    under a key that was free, and takes nothing away. So after any operations no two templates
    share a key, the templates are those whose insertion succeeded, in that order, and a key belongs
    for good to the template that was the first to be inserted under it. -/

namespace Issuance
namespace Catalog

/-- What is done with a catalog. -/
inductive Operation where
  | insert (t : Template)
  | get (key : String)
  | iterate

/-- What comes of it. -/
inductive Outcome where
  | inserted
  | found (t : Template)
  | listed (templates : List Template)
  | failed (e : Error)

/-- The catalog after an operation, and what comes of the operation. An insertion that fails gives
    no catalog, and the one that was there is kept. -/
def step (c : Catalog) : Operation → Catalog × Outcome
  | .insert t =>
    match c.insert t with
    | .ok c' => (c', .inserted)
    | .error e => (c, .failed e)
  | .get key =>
    match c.get key with
    | .ok t => (c, .found t)
    | .error e => (c, .failed e)
  | .iterate => (c, .listed c.templates)

/-- What comes of an operation. -/
def outcome (c : Catalog) (op : Operation) : Outcome := (c.step op).2

/-- The catalog after some operations. -/
def after (c : Catalog) (ops : List Operation) : Catalog := ops.foldl (fun c op => (c.step op).1) c

/-- Operations with what came of each. -/
def history : Catalog → List Operation → List (Operation × Outcome)
  | _, [] => []
  | c, op :: rest => (op, c.outcome op) :: (c.step op).1.history rest

/-! ### What was inserted -/

/-- The template of an insertion. -/
def Operation.template? : Operation → Option Template
  | .insert t => some t
  | _ => none

/-- The template of an insertion that succeeded. -/
def accepted? : Operation × Outcome → Option Template
  | (.insert t, .inserted) => some t
  | _ => none

/-- The templates at the beginning, and then those whose insertion succeeded. -/
def entered (c : Catalog) (ops : List Operation) : List Template :=
  c.templates ++ (c.history ops).filterMap accepted?

/-- The templates at the beginning, and then all that some operations insert or try to. -/
def offered (c : Catalog) (ops : List Operation) : List Template :=
  c.templates ++ ops.filterMap Operation.template?

/-- The first of some templates to have a key. -/
structure FirstUnder (key : String) (templates : List Template) (t : Template) : Prop where
  key_eq : t.key = key
  first : ∃ before later, templates = before ++ t :: later ∧ ∀ u ∈ before, u.key ≠ key

/-- A catalog after some operations: what it holds, and what comes of the next one. The templates
    that count are the ones entered; for lookups it makes no difference to count all that were
    offered, for the first one under a key is always entered. -/
structure FirstWins (c : Catalog) (ops : List Operation) : Prop where
  distinct : (c.after ops).keys.Nodup
  contents : (c.after ops).templates = c.entered ops
  next : ∀ op rest, c.history (ops ++ op :: rest) =
    c.history ops ++ (op, (c.after ops).outcome op) :: (c.after (ops ++ [op])).history rest
  insert_succeeds : ∀ t, (c.after ops).outcome (.insert t) = .inserted ↔
    ∀ u ∈ c.entered ops, u.key ≠ t.key
  insert_fails : ∀ t e, (c.after ops).outcome (.insert t) = .failed e ↔
    e = .duplicateKey t.key ∧ ∃ u ∈ c.entered ops, u.key = t.key
  unchanged : ∀ op, (c.after ops).outcome op ≠ .inserted → c.after (ops ++ [op]) = c.after ops
  get_finds : ∀ key t, (c.after ops).outcome (.get key) = .found t ↔
    FirstUnder key (c.entered ops) t
  get_fails : ∀ key e, (c.after ops).outcome (.get key) = .failed e ↔
    e = .presetNotFound key ∧ ∀ u ∈ c.entered ops, u.key ≠ key
  get_lasts : ∀ key t rest, (c.after ops).outcome (.get key) = .found t →
    (c.after (ops ++ rest)).outcome (.get key) = .found t
  iterates : (c.after ops).outcome .iterate = .listed (c.entered ops)
  first_offer : ∀ key t, FirstUnder key (c.entered ops) t ↔ FirstUnder key (c.offered ops) t

variable {c : Catalog} {op : Operation} {ops rest : List Operation} {key : String} {t : Template}

/-! ### Looking up -/

theorem find?_key_eq_some_iff {ts : List Template} :
    (ts.find? fun u => u.key == key) = some t ↔ FirstUnder key ts t := by
  rw [List.find?_eq_some_iff_append]
  simp only [beq_iff_eq, Bool.not_eq_true', beq_eq_false_iff_ne]
  exact ⟨fun ⟨hkey, hfirst⟩ => ⟨hkey, hfirst⟩, fun ⟨hkey, hfirst⟩ => ⟨hkey, hfirst⟩⟩

theorem FirstUnder.unique {ts : List Template} {u : Template} (ht : FirstUnder key ts t)
    (hu : FirstUnder key ts u) : t = u :=
  Option.some.inj ((find?_key_eq_some_iff.mpr ht).symm.trans (find?_key_eq_some_iff.mpr hu))

theorem FirstUnder.mem {ts : List Template} (h : FirstUnder key ts t) : t ∈ ts := by
  obtain ⟨-, before, later, rfl, -⟩ := h
  exact List.mem_append_right before List.mem_cons_self

theorem find?_eq_some_iff : c.find? key = some t ↔ FirstUnder key c.templates t :=
  find?_key_eq_some_iff

theorem find?_eq_none_iff : c.find? key = none ↔ ∀ u ∈ c.templates, u.key ≠ key := by
  simp [find?]

theorem isSome_find?_iff : (c.find? key).isSome = true ↔ ∃ u ∈ c.templates, u.key = key := by
  simp [find?]

/-! ### One operation -/

/-- What an operation does: a template under a free key is added at the end, and nothing else
    changes a catalog. -/
inductive Effect (c : Catalog) : Operation → Catalog → Outcome → Prop
  | added (t : Template) : (∀ u ∈ c.templates, u.key ≠ t.key) →
      Effect c (.insert t) ⟨c.templates ++ [t]⟩ .inserted
  | refused (t : Template) : (∃ u ∈ c.templates, u.key = t.key) →
      Effect c (.insert t) c (.failed (.duplicateKey t.key))
  | found (key : String) (t : Template) : FirstUnder key c.templates t →
      Effect c (.get key) c (.found t)
  | missing (key : String) : (∀ u ∈ c.templates, u.key ≠ key) →
      Effect c (.get key) c (.failed (.presetNotFound key))
  | listed : Effect c .iterate c (.listed c.templates)

theorem effect_step (c : Catalog) (op : Operation) : c.Effect op (c.step op).1 (c.outcome op) := by
  cases op with
  | insert t =>
    rw [outcome, step, Catalog.insert]
    cases h : c.find? t.key with
    | some u => exact .refused t (isSome_find?_iff.mp (by rw [h]; rfl))
    | none => exact .added t (find?_eq_none_iff.mp h)
  | get key =>
    rw [outcome, step, get]
    cases h : c.find? key with
    | some t => exact .found key t (find?_eq_some_iff.mp h)
    | none => exact .missing key (find?_eq_none_iff.mp h)
  | iterate => exact .listed

namespace Effect

variable {c' : Catalog} {o : Outcome}

/-- Only an insertion that succeeds changes a catalog. -/
theorem eq_of_not_inserted (h : c.Effect op c' o) (ho : o ≠ .inserted) : c' = c := by
  cases h with
  | added => exact absurd rfl ho
  | _ => rfl

/-- An operation adds the template that it inserts, and nothing else. -/
theorem templates_eq (h : c.Effect op c' o) :
    c'.templates = c.templates ++ [(op, o)].filterMap accepted? := by
  cases h with
  | added => rfl
  | _ => exact (List.append_nil _).symm

theorem nodup_keys (h : c.Effect op c' o) (hkeys : c.keys.Nodup) : c'.keys.Nodup := by
  cases h with
  | added t hfree =>
    rw [keys, List.map_append, List.map_singleton]
    refine hkeys.append (List.nodup_singleton _) (List.disjoint_singleton.mpr ?_)
    simpa [keys] using hfree
  | _ => exact hkeys

/-- Whether or not an insertion succeeds, its template stands behind all that were there. -/
theorem find?_eq (h : c.Effect op c' o) (key : String) :
    c'.find? key = (c.offered [op]).find? fun u => u.key == key := by
  cases h with
  | added => rfl
  | refused t htaken =>
    change c.find? key = (c.templates ++ [t]).find? _
    rw [List.find?_append]
    change c.find? key = (c.find? key).or _
    -- A refused template is never found: there is one in front of it.
    by_cases hkey : t.key = key
    · subst hkey
      obtain ⟨u, hu⟩ := Option.isSome_iff_exists.mp (isSome_find?_iff.mpr htaken)
      rw [hu]
      rfl
    · have hnone : [t].find? (fun u => u.key == key) = none := by simpa using hkey
      rw [hnone, Option.or_none]
  | _ => exact congrArg (List.find? _) (List.append_nil _).symm

theorem inserted_iff (h : c.Effect (.insert t) c' o) :
    o = .inserted ↔ ∀ u ∈ c.templates, u.key ≠ t.key := by
  cases h with
  | added _ hfree => exact iff_of_true rfl hfree
  | refused _ htaken =>
    obtain ⟨u, hu, hkey⟩ := htaken
    exact iff_of_false (by rintro ⟨⟩) fun hfree => hfree u hu hkey

theorem insert_failed_iff {e : Error} (h : c.Effect (.insert t) c' o) :
    o = .failed e ↔ e = .duplicateKey t.key ∧ ∃ u ∈ c.templates, u.key = t.key := by
  cases h with
  | added _ hfree =>
    refine iff_of_false (by rintro ⟨⟩) ?_
    rintro ⟨-, u, hu, hkey⟩
    exact hfree u hu hkey
  | refused _ htaken => rw [and_iff_left htaken, Outcome.failed.injEq, eq_comm]

theorem found_iff (h : c.Effect (.get key) c' o) :
    o = .found t ↔ FirstUnder key c.templates t := by
  cases h with
  | found _ u hu =>
    rw [Outcome.found.injEq]
    exact ⟨fun heq => heq ▸ hu, hu.unique⟩
  | missing _ hfree =>
    exact iff_of_false (by rintro ⟨⟩) fun ht => hfree t ht.mem ht.key_eq

theorem get_failed_iff {e : Error} (h : c.Effect (.get key) c' o) :
    o = .failed e ↔ e = .presetNotFound key ∧ ∀ u ∈ c.templates, u.key ≠ key := by
  cases h with
  | found _ u hu =>
    refine iff_of_false (by rintro ⟨⟩) ?_
    rintro ⟨-, hfree⟩
    exact hfree u hu.mem hu.key_eq
  | missing _ hfree => rw [and_iff_left hfree, Outcome.failed.injEq, eq_comm]

end Effect

/-! ### Runs of operations -/

theorem after_append (c : Catalog) (ops rest : List Operation) :
    c.after (ops ++ rest) = (c.after ops).after rest := List.foldl_append

theorem history_append : ∀ (ops : List Operation) (c : Catalog),
    c.history (ops ++ rest) = c.history ops ++ (c.after ops).history rest
  | [], _ => rfl
  | op :: ops, c => by
    rw [List.cons_append, history, history, history_append ops, List.cons_append]
    rfl

theorem templates_after : ∀ (ops : List Operation) (c : Catalog),
    (c.after ops).templates = c.entered ops
  | [], c => (List.append_nil _).symm
  | op :: ops, c => by
    change ((c.step op).1.after ops).templates = _
    rw [templates_after ops, entered, (c.effect_step op).templates_eq, List.append_assoc,
      ← List.filterMap_append]
    rfl

theorem nodup_keys_after : ∀ (ops : List Operation) {c : Catalog},
    c.keys.Nodup → (c.after ops).keys.Nodup
  | [], _, h => h
  | op :: ops, c, h => nodup_keys_after ops ((c.effect_step op).nodup_keys h)

/-- A key is looked up as if every insertion had succeeded. -/
theorem find?_after (key : String) : ∀ (ops : List Operation) (c : Catalog),
    (c.after ops).find? key = (c.offered ops).find? fun u => u.key == key
  | [], _ => congrArg (List.find? _) (List.append_nil _).symm
  | op :: ops, c => by
    have hsplit : c.offered (op :: ops) = c.offered [op] ++ ops.filterMap Operation.template? := by
      rw [offered, offered, List.append_assoc, ← List.filterMap_append, List.singleton_append]
    change ((c.step op).1.after ops).find? key = _
    rw [find?_after key ops, hsplit, offered, List.find?_append, List.find?_append]
    exact congrArg (Option.or · _) ((c.effect_step op).find?_eq key)

/-- What is found under a key stays the same for good. -/
theorem FirstUnder.after (h : FirstUnder key c.templates t) (ops : List Operation) :
    FirstUnder key (c.after ops).templates t := by
  rw [← find?_eq_some_iff, find?_after, offered, List.find?_append, find?_key_eq_some_iff.mpr h]
  rfl

/-- In a catalog without repeated keys the first to come wins, whatever is done with it. -/
theorem firstWins (h : c.keys.Nodup) (ops : List Operation) : c.FirstWins ops := by
  have hcontents := templates_after ops c
  have heffect := (c.after ops).effect_step
  refine
    { distinct := nodup_keys_after ops h
      contents := hcontents
      next := fun op rest => ?_
      insert_succeeds := fun t => hcontents ▸ (heffect _).inserted_iff
      insert_fails := fun t e => hcontents ▸ (heffect _).insert_failed_iff
      unchanged := fun op hop => ?_
      get_finds := fun key t => hcontents ▸ (heffect _).found_iff
      get_fails := fun key e => hcontents ▸ (heffect _).get_failed_iff
      get_lasts := fun key t rest hget => ?_
      iterates := congrArg Outcome.listed hcontents
      first_offer := fun key t => ?_ }
  · rw [history_append, after_append]
    rfl
  · rw [after_append]
    exact (heffect op).eq_of_not_inserted hop
  · have hfirst := ((heffect _).found_iff.mp hget).after rest
    rw [after_append]
    exact (effect_step _ _).found_iff.mpr hfirst
  · rw [← hcontents, ← find?_eq_some_iff, find?_after, find?_key_eq_some_iff]

/-! ### The two beginnings -/

/-- The catalogs to begin with. -/
inductive Beginning where
  | empty
  | presets

namespace Beginning

/-- The texts of the templates to begin with. -/
def texts : Beginning → List String
  | .empty => []
  | .presets => Preset.all

/-- The catalog to begin with. -/
def catalog : Beginning → Traced Event Catalog
  | .empty => pure Catalog.empty
  | .presets => builtin

end Beginning

/-- A text from which a template is loaded. -/
def Loads (text : String) (t : Template) : Prop :=
  (Template.load .wpml text.toList).outcome = .ok t

theorem loadAll_of_loads {texts : List String} {ts : List Template}
    (h : List.Forall₂ Loads texts ts) : (loadAll texts).outcome = .ok ts := by
  induction h with
  | nil => rfl
  | @cons text t texts ts hload _ ih =>
    rw [loadAll]
    exact Traced.outcome_bind_eq_ok_iff.mpr
      ⟨t, hload, Traced.outcome_bind_eq_ok_iff.mpr ⟨ts, ih, rfl⟩⟩

/-- Templates under keys of their own are all inserted. -/
theorem insertAll_of_nodup : ∀ {ts : List Template} {c : Catalog},
    (c.keys ++ ts.map fun t => t.key).Nodup → c.insertAll ts = .ok ⟨c.templates ++ ts⟩
  | [], c, _ => by rw [insertAll, List.append_nil]
  | t :: rest, c, h => by
    have hkeys : c.keys ++ (t :: rest).map (fun t => t.key) =
        (mk (c.templates ++ [t])).keys ++ rest.map fun t => t.key := by
      simp [keys]
    have hfree : c.find? t.key = none := by
      rw [find?_eq_none_iff]
      intro u hu hkey
      have hmem : u.key ∈ c.keys := List.mem_map.mpr ⟨u, hu, rfl⟩
      exact List.disjoint_of_nodup_append h hmem (hkey ▸ List.mem_cons_self)
    have hinsert : c.insert t = .ok ⟨c.templates ++ [t]⟩ := by
      rw [Catalog.insert, hfree]
      rfl
    rw [insertAll, hinsert]
    change (mk (c.templates ++ [t])).insertAll rest = _
    rw [insertAll_of_nodup (hkeys ▸ h), List.append_assoc, List.singleton_append]

/-- A text whose header gives a key and a name and whose body is not empty is loaded under the
    key. -/
theorem exists_loads_of_header {text key : String} {chars : List Char}
    (hchars : text.toList = chars) (hkey : Wpml.headerValue? "key" chars = some key)
    (hname : (Wpml.headerValue? "name" chars).isSome = true)
    (hbody : Wpml.linesIn .body chars ≠ []) : ∃ t, Loads text t ∧ t.key = key := by
  obtain ⟨name, hname⟩ := Option.isSome_iff_exists.mp hname
  have htemplate := Wpml.template_eq_ok_iff.mpr ⟨key, name, hkey, hname, hbody, rfl⟩
  exact ⟨_, hchars ▸ refuse_eq_ok_iff.mpr htemplate, rfl⟩

set_option maxRecDepth 4000 in
/-- Each preset is a template under a key of its own. -/
theorem exists_loads_presets :
    List.Forall₂ (fun text key => ∃ t, Loads text t ∧ t.key = key) Preset.all
      ["studentCard", "employmentAttestation", "kycBasic"] := by
  refine .cons ?_ (.cons ?_ (.cons ?_ .nil))
  -- The characters of a literal are taken as they stand; to decode them is slow.
  all_goals
    exact exists_loads_of_header String.toList_ofList (by decide +kernel) (by decide +kernel)
      (by decide +kernel)

theorem exists_forall₂_loads {texts keys : List String}
    (h : List.Forall₂ (fun text key => ∃ t, Loads text t ∧ t.key = key) texts keys) :
    ∃ ts : List Template, List.Forall₂ Loads texts ts ∧ ts.map (fun t => t.key) = keys := by
  induction h with
  | nil => exact ⟨[], .nil, rfl⟩
  | cons htext _ ih =>
    obtain ⟨t, hload, rfl⟩ := htext
    obtain ⟨ts, hloads, rfl⟩ := ih
    exact ⟨t :: ts, .cons hload hloads, rfl⟩

/-- The presets are a catalog. -/
theorem exists_builtin : ∃ c, builtin.outcome = .ok c ∧ List.Forall₂ Loads Preset.all c.templates ∧
    c.keys.Nodup := by
  obtain ⟨ts, hloads, hkeys⟩ := exists_forall₂_loads exists_loads_presets
  have hnodup : (ts.map fun t => t.key).Nodup := by
    rw [hkeys]
    decide
  have hinsert : Catalog.empty.insertAll ts = .ok ⟨ts⟩ := insertAll_of_nodup hnodup
  exact ⟨⟨ts⟩, Traced.outcome_bind_eq_ok_iff.mpr ⟨ts, loadAll_of_loads hloads, hinsert⟩, hloads,
    hnodup⟩

/-- From either beginning and after any operations, no two templates of a catalog share a key, and
    it holds those whose insertion succeeded, in that order; an insertion fails just when its key is
    taken, and changes nothing then; a key gives the first template inserted under it, for good. -/
theorem firstWins_of_beginning (b : Beginning) : ∃ c, b.catalog.outcome = .ok c ∧
    List.Forall₂ Loads b.texts c.templates ∧ ∀ ops, c.FirstWins ops := by
  cases b with
  | empty => exact ⟨Catalog.empty, rfl, .nil, firstWins List.nodup_nil⟩
  | presets =>
    obtain ⟨c, hbuiltin, hloads, hnodup⟩ := exists_builtin
    exact ⟨c, hbuiltin, hloads, firstWins hnodup⟩

end Catalog
end Issuance

import Issuance.Cli.Run
import Issuance.Proofs.Traced
import Mathlib.Data.List.Basic

/-! # What a run leaves behind

    Of what a run does, printing and writing are its results; what is logged or said on the way is
    not. A computation that goes from one quiet part to the next is quiet, whether it fails or not.
    Selecting log records changes nothing in the results, and nothing but the results changes what
    is in a folder: a text that is written is found where its path leads. -/

namespace Issuance.Cli

variable {α β : Type} {x : Traced Effect α} {f : α → Traced Effect β}

/-- Whether an effect prints a line or writes a file. -/
def Effect.isResult : Effect → Bool
  | .print _ | .write .. => true
  | .log _ | .say _ | .inputEnd => false

/-- The results among effects. -/
def results (effects : List Effect) : List Effect := effects.filter Effect.isResult

theorem results_append (effects effects' : List Effect) :
    results (effects ++ effects') = results effects ++ results effects' :=
  List.filter_append ..

/-! ### Quiet computations -/

/-- A computation without results, whether it ends in a value or in an error. -/
def Quiet (x : Traced Effect α) : Prop := results x.trace = []

theorem quiet_pure (a : α) : Quiet (pure a) := rfl

theorem quiet_ofExcept (outcome : Except Error α) : Quiet (.ofExcept outcome) := rfl

theorem quiet_log (e : Event) : Quiet (log e) := rfl

/-- What the library does is no result of a run. -/
theorem quiet_ofLibrary (x : Traced Event α) : Quiet (ofLibrary x) := by
  refine List.filter_eq_nil_iff.mpr fun effect heffect => ?_
  obtain ⟨e, -, rfl⟩ := List.mem_map.mp heffect
  exact Bool.false_ne_true

theorem Quiet.results_bind (hx : Quiet x) {a : α} (ha : x.outcome = .ok a) :
    results (x >>= f).trace = results (f a).trace := by
  rw [Traced.bind_of_ok ha, results_append, hx, List.nil_append]

theorem Quiet.bind (hx : Quiet x) (hf : ∀ a, Quiet (f a)) : Quiet (x >>= f) := by
  cases ha : x.outcome with
  | error e => rw [Traced.bind_of_error ha]; exact hx
  | ok a => exact (hx.results_bind ha).trans (hf a)

/-! ### What is seen -/

/-- The filter for log records leaves the results. -/
theorem results_visible (filter : LogFilter) (effects : List Effect) :
    results (visible filter effects) = results effects := by
  rw [results, visible, List.filter_filter]
  refine List.filter_congr fun effect _ => ?_
  cases effect <;> rfl

theorem results_failure (i : Invocation) (w : World) (e : Error) :
    results (i.failure w e) = [] := by
  rw [Invocation.failure, results_visible]
  rfl

/-- What is written is among the results. -/
theorem Outcome.writes_eq (o : Outcome) :
    o.writes = (⟨Cli.results o.effects, o.exitCode⟩ : Outcome).writes := by
  rw [writes, writes, Cli.results, List.filterMap_filter]
  refine List.filterMap_congr fun effect _ => ?_
  cases effect <;> rfl

/-! ### What is in a folder -/

namespace Folder

variable {folder : Folder} {path : String} {there : List (List Char)}

theorem text?_cons (e : List (List Char) × String) (folder : Folder) (steps : List (List Char)) :
    Folder.text? (e :: folder) steps = if e.1 = steps then some e.2 else folder.text? steps := by
  rw [text?, List.find?_cons]
  split
  · next he => rw [if_pos (beq_iff_eq.mp he)]; rfl
  · next he => rw [if_neg (beq_eq_false_iff_ne.mp he)]; rfl

/-- A text put in for another is found in its place. -/
theorem text?_map (there steps : List (List Char)) (text : String) : ∀ folder : Folder,
    Folder.text? (folder.map fun e => if e.1 == there then (there, text) else e) steps =
      (folder.text? steps).map fun old => if there = steps then text else old
  | [] => rfl
  | e :: rest => by
    rw [List.map_cons, text?_cons, text?_cons, text?_map there steps text rest]
    by_cases hthere : e.1 = there
    · by_cases hsteps : there = steps <;> simp [hthere, hsteps]
    · rw [if_neg (mt beq_iff_eq.mp hthere)]
      by_cases hsteps : e.1 = steps
      · have hne : there ≠ steps := fun h => hthere (hsteps.trans h.symm)
        simp [hsteps, hne]
      · simp [hsteps]

/-- A new text is found behind the others. -/
theorem text?_concat (there steps : List (List Char)) (text : String) : ∀ folder : Folder,
    Folder.text? (folder ++ [(there, text)]) steps =
      (folder.text? steps).or (if there = steps then some text else none)
  | [] => text?_cons (there, text) [] steps
  | e :: rest => by
    rw [List.cons_append, text?_cons, text?_cons, text?_concat there steps text rest]
    split_ifs <;> rfl

/-- A text written to a path is found where the path leads, and everything else where it was. -/
theorem text?_write (h : folder.target path = .ok (some there)) (text : String)
    (steps : List (List Char)) :
    (folder.write path text).text? steps =
      if there = steps then some text else folder.text? steps := by
  rw [write, h]
  dsimp only
  split
  · next hheld =>
    obtain ⟨old, hold⟩ := Option.isSome_iff_exists.mp hheld
    rw [text?_map]
    by_cases hsteps : there = steps
    · rw [if_pos hsteps, ← hsteps, hold, Option.map_some, if_pos rfl]
    · simp only [if_neg hsteps, Option.map_id']
  · next hfree =>
    rw [text?_concat]
    by_cases hsteps : there = steps
    · rw [if_pos hsteps, ← hsteps, Option.not_isSome_iff_eq_none.mp hfree, Option.none_or,
        if_pos rfl]
    · rw [if_neg hsteps, if_neg hsteps, Option.or_none]

/-- Where a path leads nowhere that keeps a text, nothing is written. -/
theorem write_eq_self (h : ∀ there, folder.target path ≠ .ok (some there)) (text : String) :
    folder.write path text = folder := by
  rw [write]
  split
  · rfl
  · rfl
  · next there htarget => exact absurd htarget (h there)

end Folder
end Issuance.Cli

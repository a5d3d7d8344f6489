import Issuance.Event
import Issuance.Proofs.Placeholder.OnePass

/-! # What is recorded while a text is filled

    Once the reserved placeholders are filled, one walk over the text accounts for the others: what
    has a value gives way to it, null included, and what has none gives way to nothing and leaves a
    record. So there are as many records as placeholders without a value, in the order of the
    text. -/

namespace Issuance

/-- Whether a record is about a placeholder. -/
def Event.isOfPlaceholder : Event → Bool
  | .noValue .. => true
  | _ => false

namespace Placeholder

open Text (pieces)

/-- One walk over a text from the left, with what it writes and what it records: a character at
    which no placeholder starts is copied, a placeholder with a value gives way to it, and one
    without a value leaves a record. -/
inductive Recorded (g : Grammar) (escaping : Escaping) (scope : Json.Object) :
    List Char → List Char → List Event → Prop
  | nil : Recorded g escaping scope [] [] []
  | char {c : Char} {s t : List Char} {es : List Event} :
      (∀ path, g.HasPath path → ¬ofPath path <+: c :: s) → Recorded g escaping scope s t es →
        Recorded g escaping scope (c :: s) (c :: t) es
  | valued {path s t : List Char} {es : List Event} {v : Json} :
      g.HasPath path → value? scope path = some v → Recorded g escaping scope s t es →
        Recorded g escaping scope (ofPath path ++ s) (escaping.apply (shown v) ++ t) es
  | unvalued {path s t : List Char} {es : List Event} :
      g.HasPath path → value? scope path = none → Recorded g escaping scope s t es →
        Recorded g escaping scope (ofPath path ++ s) t (.noValue (String.ofList path) :: es)

/-- The records of filling a text. -/
def recordsOf (g : Grammar) (b : Builtins) (scope : Json.Object) (content : List Char) :
    List Event :=
  (missing g b scope content).map fun path => .noValue (String.ofList path)

/-- The paths in a text that have no value. -/
def valueless (g : Grammar) (scope : Json.Object) (s : List Char) : List (List Char) :=
  (paths g s).filter fun path => (value? scope path).isNone

variable {g : Grammar} {escaping : Escaping} {scope : Json.Object} {c : Char}
  {path s t content out : List Char} {es : List Event}

/-! ### One piece of the text -/

theorem pieces_cons_of_no_path (h : ∀ path, g.HasPath path → ¬ofPath path <+: c :: s) :
    pieces (Placeholder.find g) (c :: s) = .char c :: pieces (Placeholder.find g) s := by
  refine Text.pieces_cons_of_none (Option.eq_none_iff_forall_ne_some.mpr fun m hm => ?_)
  obtain ⟨hpath, hstarts, -⟩ := find_eq_some_iff.mp hm
  exact h m.value hpath hstarts

theorem paths_cons (h : ∀ path, g.HasPath path → ¬ofPath path <+: c :: s) :
    paths g (c :: s) = paths g s := by
  rw [paths, pieces_cons_of_no_path h]
  rfl

theorem paths_ofPath_append (h : g.HasPath path) (s : List Char) :
    paths g (ofPath path ++ s) = path :: paths g s := by
  have hpieces := pieces_ofPath h [] s
  rw [List.nil_append, Text.pieces_nil, List.nil_append] at hpieces
  rw [paths, hpieces]
  rfl

theorem fillPaths_cons (h : ∀ path, g.HasPath path → ¬ofPath path <+: c :: s) :
    fillPaths g escaping scope (c :: s) = c :: fillPaths g escaping scope s := by
  rw [fillPaths, pieces_cons_of_no_path h]
  rfl

theorem fillPaths_ofPath_append (h : g.HasPath path) (s : List Char) :
    fillPaths g escaping scope (ofPath path ++ s) =
      fill escaping scope path ++ fillPaths g escaping scope s :=
  fillPaths_ofPath h [] s

/-! ### The walk -/

/-- What the walk writes is what filling makes, and what it records are the paths without a
    value. -/
theorem Recorded.eq (h : Recorded g escaping scope s t es) :
    t = fillPaths g escaping scope s ∧
      es = (valueless g scope s).map fun path => .noValue (String.ofList path) := by
  induction h with
  | nil => exact ⟨rfl, rfl⟩
  | char hnone _ ih =>
    rw [fillPaths_cons hnone, valueless, paths_cons hnone]
    exact ⟨congrArg _ ih.1, ih.2⟩
  | valued hpath hv _ ih =>
    rw [fillPaths_ofPath_append hpath, valueless, paths_ofPath_append hpath, fill, lookup, hv,
      List.filter_cons_of_neg (by simp [hv])]
    exact ⟨congrArg _ ih.1, ih.2⟩
  | unvalued hpath hv _ ih =>
    rw [fillPaths_ofPath_append hpath, valueless, paths_ofPath_append hpath, fill, lookup, hv,
      List.filter_cons_of_pos (by simp [hv])]
    exact ⟨ih.1, congrArg _ ih.2⟩

theorem exists_recorded (g : Grammar) (escaping : Escaping) (scope : Json.Object) (s : List Char) :
    ∃ t es, Recorded g escaping scope s t es := by
  induction s using g.walk_induction with
  | nil => exact ⟨[], [], .nil⟩
  | char c s hnone ih =>
    obtain ⟨t, es, h⟩ := ih
    exact ⟨c :: t, es, .char hnone h⟩
  | placeholder path s hpath ih =>
    obtain ⟨t, es, h⟩ := ih
    cases hv : value? scope path with
    | none => exact ⟨_, _, .unvalued hpath hv h⟩
    | some v => exact ⟨_, _, .valued hpath hv h⟩

/-- Filling a text writes and records what the walk over it does, the reserved placeholders filled
    before. -/
theorem recorded_iff {b : Builtins} :
    Recorded g escaping scope (fillBuiltins b content) out es ↔
      out = fillAll g escaping b scope content ∧ es = recordsOf g b scope content := by
  refine ⟨Recorded.eq, ?_⟩
  rintro ⟨rfl, rfl⟩
  obtain ⟨t, es, h⟩ := exists_recorded g escaping scope (fillBuiltins b content)
  obtain ⟨rfl, rfl⟩ := h.eq
  exact h

/-- The records of filling a text are about placeholders, and for debugging. -/
theorem of_mem_recordsOf {b : Builtins} {e : Event} (he : e ∈ recordsOf g b scope content) :
    e.isOfPlaceholder = true ∧ e.level = .debug := by
  obtain ⟨path, -, rfl⟩ := List.mem_map.mp he
  exact ⟨rfl, rfl⟩

end Placeholder
end Issuance

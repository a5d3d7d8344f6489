import Issuance.Text.Blank
import Mathlib.Data.List.Basic
import Mathlib.Data.List.TakeWhile

/-! # Spans of a class of characters

    The characters of a class that a text starts with are its span. A text that does not start with
    the class ends the span of whatever stands before it, so the two parts can be looked at alone.
    -/

namespace Issuance.Text

/-- A text that does not start with a character of a class. -/
def Stops (p : Char → Bool) (t : List Char) : Prop := ∀ c ∈ t.head?, p c = false

variable {p q : Char → Bool} {c : Char} {s t : List Char}

theorem stops_nil : Stops p [] := by simp [Stops]

@[simp]
theorem stops_cons : Stops p (c :: t) ↔ p c = false := by simp [Stops]

theorem stops_append (hs : s ≠ []) (h : ∀ c ∈ s, p c = false) (t : List Char) :
    Stops p (s ++ t) := by
  obtain ⟨c, rest, rfl⟩ := List.exists_cons_of_ne_nil hs
  exact stops_cons.mpr (h c List.mem_cons_self)

theorem Stops.mono (h : Stops p t) (hqp : ∀ c, q c = true → p c = true) : Stops q t := by
  intro c hc
  by_contra hq
  have hp := h c hc
  rw [hqp c (by simpa using hq)] at hp
  cases hp

theorem stops_dropWhile : ∀ s : List Char, Stops p (s.dropWhile p)
  | [] => stops_nil
  | c :: rest => by
    by_cases hc : p c
    · rw [List.dropWhile_cons_of_pos hc]; exact stops_dropWhile rest
    · rw [List.dropWhile_cons_of_neg hc]; exact stops_cons.mpr (by simpa using hc)

theorem Stops.takeWhile (h : Stops p t) : t.takeWhile p = [] := by
  cases t with
  | nil => rfl
  | cons c rest => exact List.takeWhile_cons_of_neg (by simpa using stops_cons.mp h)

theorem Stops.dropWhile (h : Stops p t) : t.dropWhile p = t := by
  cases t with
  | nil => rfl
  | cons c rest => exact List.dropWhile_cons_of_neg (by simpa using stops_cons.mp h)

theorem takeWhile_append_stops (h : Stops p t) : ∀ s : List Char,
    (s ++ t).takeWhile p = s.takeWhile p
  | [] => h.takeWhile
  | c :: rest => by
    rw [List.cons_append, List.takeWhile_cons, List.takeWhile_cons, takeWhile_append_stops h rest]

theorem dropWhile_append_stops (h : Stops p t) : ∀ s : List Char,
    (s ++ t).dropWhile p = s.dropWhile p ++ t
  | [] => h.dropWhile
  | c :: rest => by
    rw [List.cons_append, List.dropWhile_cons, List.dropWhile_cons, dropWhile_append_stops h rest]
    split <;> simp

/-- The span of a text of the class, before a text that ends it. -/
theorem dropWhile_span_append (hs : ∀ c ∈ s, p c = true) (h : Stops p t) :
    (s ++ t).dropWhile p = t := by
  rw [List.dropWhile_append_of_pos hs, h.dropWhile]

/-- What holds of every character of a text is checked one by one. -/
theorem forall_mem_of_all {p : Char → Prop} [DecidablePred p] (h : s.all (decide <| p ·) = true) :
    ∀ c ∈ s, p c :=
  fun c hc => of_decide_eq_true (List.all_eq_true.mp h c hc)

/-- Trimming takes away white space up to the first and the last character that is none. -/
theorem trim_append {w w' : List Char} {a z : Char} (hw : ∀ c ∈ w, isBlank c = true)
    (hw' : ∀ c ∈ w', isBlank c = true) (ha : isBlank a = false) (hz : isBlank z = false)
    (m : List Char) : trim (w ++ (a :: (m ++ [z]) ++ w')) = a :: (m ++ [z]) := by
  have hstart : trimStart (w ++ (a :: (m ++ [z]) ++ w')) = a :: (m ++ [z]) ++ w' :=
    dropWhile_span_append hw (stops_cons.mpr ha)
  have hrev : ∀ c ∈ w'.reverse, isBlank c = true := fun c hc => hw' c (List.mem_reverse.mp hc)
  have hend : (w'.reverse ++ z :: (m.reverse ++ [a])).dropWhile isBlank = z :: (m.reverse ++ [a]) :=
    dropWhile_span_append hrev (stops_cons.mpr hz)
  rw [trim, hstart, trimEnd]
  simp only [List.reverse_append, List.reverse_cons, List.nil_append, List.cons_append,
    List.append_assoc] at hend ⊢
  rw [hend]
  simp

end Issuance.Text

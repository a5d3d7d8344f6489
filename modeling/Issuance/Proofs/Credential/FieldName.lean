import Issuance.Proofs.Credential.DollarPath
import Issuance.Proofs.Placeholder.Filling

/-! # Names that placeholders ask for fields by

    An id of a field is any text, a path is not: it has few characters, its dots part names, and
    three of its names stand for the time, the id of the rendering and the organization. An id free
    of all this is a path of its own, and its placeholder finds what the form has for it. -/

namespace Issuance

open Placeholder (Grammar)

/-- The characters of an id that a placeholder can ask for as a whole. -/
def isIdChar (c : Char) : Bool := c.isAlphanum || c == '_' || c == '-'

/-- An id that a placeholder asks for as a field: of such characters, and no name that stands for
    something else. -/
structure Askable (id : String) : Prop where
  ne_empty : id ≠ ""
  chars : ∀ c ∈ id.toList, isIdChar c = true
  unreserved : id ∉ ["now", "uuid", "org"]

/-- A character of a path that is no dot may stand in an id. -/
theorem isIdChar_of_isPathChar {c : Char} (h : Placeholder.isPathChar c = true) (hdot : c ≠ '.') :
    isIdChar c = true := by
  simp only [Placeholder.isPathChar, Bool.or_eq_true, beq_iff_eq, hdot, or_false] at h
  simpa [isIdChar] using h

theorem isPathChar_of_isIdChar {c : Char} (h : isIdChar c = true) :
    Placeholder.isPathChar c = true := by
  simp only [isIdChar, Bool.or_eq_true, beq_iff_eq] at h
  rcases h with (h | rfl) | rfl
  · simp [Placeholder.isPathChar, h]
  · decide
  · decide

namespace Askable

variable {id : String}

theorem not_mem (h : Askable id) {c : Char} (hc : isIdChar c = false) : c ∉ id.toList := by
  intro hmem
  rw [h.chars c hmem] at hc
  cases hc

theorem hasPath (h : Askable id) (g : Grammar) : g.HasPath id.toList :=
  .plain (fun hnil => h.ne_empty (String.toList_eq_nil_iff.mp hnil)) fun c hc =>
    isPathChar_of_isIdChar (h.chars c hc)

theorem toList_ne (h : Askable id) {name : String} (hname : name ∈ ["now", "uuid", "org"]) :
    name.toList ≠ id.toList :=
  fun heq => h.unreserved (String.toList_inj.mp heq ▸ hname)

/-- Nothing is put over the value of the field. -/
theorem get?_scope (h : Askable id) (t : Template) (ctx : RenderContext) :
    (t.scope ctx).get? id = (t.values ctx.form).get? id := by
  have horg : "org" ≠ id := fun heq => h.unreserved (heq ▸ by decide)
  have hcontext : Template.contextName ≠ id := by
    rintro rfl
    exact h.not_mem (by decide : isIdChar '$' = false) (by decide)
  have hfields : ((t.values ctx.form).insert "org" ctx.org.toJson).get? id =
      (t.values ctx.form).get? id := Json.Object.get?_insert_of_ne horg _ _
  rw [Template.scope]
  split
  · rw [Json.Object.get?_insert_of_ne hcontext, hfields]
  · exact hfields

/-- The placeholder finds the value of the form, or else the default. -/
theorem value?_scope (h : Askable id) (t : Template) {ctx : RenderContext}
    (hnames : ctx.form.names.Nodup) : Placeholder.value? (t.scope ctx) id.toList =
      (ctx.form.get? id).or (t.defaults.get? id) := by
  rw [Template.value?_of_no_dot (h.not_mem (by decide)), String.ofList_toList, h.get?_scope,
    t.get?_values id hnames]

/-- The placeholder becomes what the form has. -/
theorem fill_scope (h : Askable id) (t : Template) {ctx : RenderContext}
    (hnames : ctx.form.names.Nodup) {v : Json} (hget : ctx.form.get? id = some v)
    (escaping : Placeholder.Escaping) :
    Placeholder.fill escaping (t.scope ctx) id.toList = escaping.apply (Placeholder.shown v) := by
  rw [Placeholder.fill, Placeholder.lookup, h.value?_scope t hnames, hget]
  rfl

end Askable
end Issuance

import Issuance.Proofs.Text.Trimming
import Issuance.Template.Source
import Mathlib.Data.List.Nodup

/-! # Building templates

    A template is built just when its key and its name are not blank, its body makes a skeleton and
    its fields have ids of their own. Then it holds what it was built from, but for a blank
    context. -/

namespace Issuance

theorem firstRepeat_eq_none_iff : ∀ {l seen : List String},
    firstRepeat seen l = none ↔ l.Nodup ∧ ∀ s ∈ l, s ∉ seen
  | [], _ => by simp [firstRepeat]
  | s :: rest, seen => by
    rw [firstRepeat]
    split
    · next hseen => simp [hseen]
    · next hseen =>
      rw [firstRepeat_eq_none_iff, List.nodup_cons, List.forall_mem_cons]
      constructor
      · rintro ⟨hnodup, hrest⟩
        refine ⟨⟨fun hmem => ?_, hnodup⟩, hseen, fun r hr hmem => ?_⟩
        · exact hrest s hmem List.mem_cons_self
        · exact hrest r hr (List.mem_cons_of_mem s hmem)
      · rintro ⟨⟨hs, hnodup⟩, -, hrest⟩
        refine ⟨hnodup, fun r hr hmem => ?_⟩
        rcases List.mem_cons.mp hmem with rfl | hmem
        · exact hs hr
        · exact hrest r hr hmem

/-- A template that is not refused is the one that was there. -/
@[simp]
theorem refuse_eq_ok_iff {α : Type} {x : Except Flaw α} {a : α} :
    refuse x = .ok a ↔ x = .ok a := by
  cases x <;> simp [refuse, Except.mapError]

/-- Whatever is refused is an invalid template. -/
theorem exists_flaw_of_refuse {α : Type} {x : Except Flaw α} {e : Error}
    (h : refuse x = .error e) : ∃ flaw, e = .templateInvalid flaw ∧ x = .error flaw := by
  cases x with
  | ok a => cases h
  | error flaw => cases h; exact ⟨flaw, rfl, rfl⟩

theorem map_refuse {α β : Type} (x : Except Flaw α) (f : α → β) :
    (refuse x).map f = refuse (x.map f) := by
  cases x <;> rfl

namespace Template

variable {key name : String} {context : Option String} {fields : List FieldSpec} {body : Body}
  {skeleton : Skeleton} {t : Template}

/-- The template that holds what it is built from. -/
def ofParts (key name : String) (context : Option String) (fields : List FieldSpec)
    (skeleton : Skeleton) : Template :=
  { key, name, context, fields, skeleton }

theorem build_of_skeleton (hkey : Text.allBlank key.toList = false)
    (hname : Text.allBlank name.toList = false) (hbody : body.skeleton = .ok skeleton)
    (hcontext : ∀ c, context = some c → Text.allBlank c.toList = false) :
    build key name context fields body =
      match firstRepeat [] (fields.map FieldSpec.id) with
      | some id => .error (.repeatedField id)
      | none => .ok (ofParts key name context fields skeleton) := by
  have hfilter : (context.filter fun c => !Text.allBlank c.toList) = context := by
    cases context with
    | none => rfl
    | some c => simp [hcontext c rfl]
  simp only [build, hkey, hname, hbody, hfilter, Bool.false_eq_true, if_false]
  rfl

end Template
end Issuance

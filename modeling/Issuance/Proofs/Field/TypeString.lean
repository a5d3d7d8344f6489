import Issuance.Field.TypeString
import Issuance.Proofs.Text.Trimming
import Mathlib.Data.List.Nodup

/-! # What a type string says

    A type string is read twice: once for its type, after the white space around it is dropped, and
    once for the mark of a required field, as it stands. So white space behind the mark is enough to
    have it taken off the type while the field does not count as required; nothing else is. -/

namespace Issuance

/-- A type is named as it was given. -/
theorem FieldType.name_ofName (s : String) : (ofName s).name = s := by
  rw [ofName]
  split_ifs with h h h h h
  · exact h.symm
  · exact h.symm
  · exact h.symm
  · exact h.symm
  · exact h.symm
  · rfl

namespace TypeString

/-- The type that a text names as a whole; without a name it is the type of texts. -/
def typeNamed (name : List Char) : FieldType :=
  if name = [] then .text else .ofName (String.ofList name)

/-- The reading of the type takes a mark off the end of a trimmed type string: the type is that of
    what stands before the mark, and not the one that is named together with it. -/
def TakesMarkOff (spec : String) : Prop :=
  ∃ front, Text.trim spec.toList = front ++ ['!'] ∧ fieldType spec = typeNamed (Text.trim front) ∧
    fieldType spec ≠ typeNamed (Text.trim spec.toList)

/-- A type string with white space at its end. -/
def EndsBlank (spec : String) : Prop :=
  ∃ c, spec.toList.getLast? = some c ∧ Text.isBlank c = true

variable {id spec : String} {s : List Char} {fields : List (String × String)}

/-! ### The type -/

theorem fieldType_eq_typeNamed (spec : String) : fieldType spec = typeNamed (typeName spec) := by
  rw [fieldType, typeNamed]
  split
  · next hnil => rw [if_pos hnil]
  · next hname => rw [if_neg hname]

theorem name_typeNamed (hne : s ≠ []) : (typeNamed s).name = String.ofList s := by
  rw [typeNamed, if_neg hne, FieldType.name_ofName]

/-- A mark makes another name. -/
theorem typeNamed_trim_ne (front : List Char) :
    typeNamed (Text.trim front) ≠ typeNamed (front ++ ['!']) := by
  intro h
  have hname := congrArg FieldType.name h
  rw [name_typeNamed (List.concat_ne_nil _ _)] at hname
  by_cases hnil : Text.trim front = []
  · rw [hnil] at hname
    have htext := congrArg (fun s => s.toList.getLast?) hname
    simp only [String.toList_ofList, List.getLast?_concat] at htext
    exact absurd htext (by decide)
  · rw [name_typeNamed hnil, String.ofList_inj] at hname
    have hlength := congrArg List.length hname
    rw [List.length_append, List.length_singleton] at hlength
    have := Text.length_trim_le front
    omega

theorem takesMarkOff_iff : TakesMarkOff spec ↔ (Text.trim spec.toList).getLast? = some '!' := by
  constructor
  · rintro ⟨front, hfront, -, -⟩
    rw [hfront, List.getLast?_concat]
  · intro hlast
    obtain ⟨front, hfront⟩ := List.getLast?_eq_some_iff.mp hlast
    have htype : fieldType spec = typeNamed (Text.trim front) := by
      rw [fieldType_eq_typeNamed, typeName, Text.dropFinal, if_pos hlast, hfront,
        List.dropLast_concat]
    refine ⟨front, hfront, htype, ?_⟩
    rw [htype, hfront]
    exact typeNamed_trim_ne front

/-- Where no mark is taken off, the type is the one that the trimmed type string names. -/
theorem fieldType_of_not_takesMarkOff (h : ¬TakesMarkOff spec) :
    fieldType spec = typeNamed (Text.trim spec.toList) := by
  rw [takesMarkOff_iff] at h
  rw [fieldType_eq_typeNamed, typeName, Text.dropFinal, if_neg h, Text.trimmed_trim]

/-! ### The mark -/

theorem isRequired_iff : isRequired spec = true ↔ TakesMarkOff spec ∧ ¬EndsBlank spec := by
  rw [isRequired, beq_iff_eq, takesMarkOff_iff, EndsBlank]
  exact Text.getLast?_eq_some_iff_trim (by decide)

theorem requiredIds_sublist (fields : List (String × String)) :
    (requiredIds fields).Sublist (fields.map Prod.fst) := List.filter_sublist.map Prod.fst

/-- An id that is not repeated is listed just when its type string has the mark. -/
theorem mem_requiredIds_iff (hids : (fields.map Prod.fst).Nodup) (h : (id, spec) ∈ fields) :
    id ∈ requiredIds fields ↔ isRequired spec = true := by
  rw [requiredIds, List.mem_map]
  constructor
  · rintro ⟨f, hf, hid⟩
    obtain ⟨hf, hrequired⟩ := List.mem_filter.mp hf
    have hsame : f = (id, spec) := List.inj_on_of_nodup_map hids hf h hid
    rwa [hsame] at hrequired
  · exact fun hrequired => ⟨(id, spec), List.mem_filter.mpr ⟨h, hrequired⟩, rfl⟩

end TypeString

end Issuance

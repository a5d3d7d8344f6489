import Issuance.Proofs.Template.ObjectFormat

/-! # The mark of a required field

    The list of the required ids and the reading of the types do not agree on every type string: a
    mark with white space behind it is taken off the type and lists no id. The object format trims
    its type strings beforehand, so there the listed ids, the required fields and the marks that are
    taken off are the same. -/

namespace Issuance.TypeString

/-- The object format leaves no white space at the end of a type string. -/
theorem not_endsBlank_typeString (v : Json) : ¬EndsBlank (Wpm.typeString v) := by
  rintro ⟨c, hlast, hblank⟩
  obtain ⟨-, htrimmed, -⟩ := Wpm.typeText_typeString v
  rw [List.getLast?_eq_head?_reverse] at hlast
  rw [htrimmed.stops_reverse c hlast] at hblank
  cases hblank

/-- The ids are listed in the order given, and an id just when a mark is taken off its type string
    and no white space stands at the end of that; a mark is taken off just where the trimmed type
    string ends in one. In the object format the white space is gone before, so the listed ids, the
    required fields and the marks that are taken off are the same. -/
theorem mem_requiredIds_iff_takesMarkOff (fields : List (String × String))
    (hids : (fields.map Prod.fst).Nodup) :
    (requiredIds fields).Sublist (fields.map Prod.fst) ∧
    (∀ id spec, (id, spec) ∈ fields →
      (id ∈ requiredIds fields ↔ TakesMarkOff spec ∧ ¬EndsBlank spec)) ∧
    (∀ spec, (TakesMarkOff spec ↔ (Text.trim spec.toList).getLast? = some '!') ∧
      (¬TakesMarkOff spec → fieldType spec = typeNamed (Text.trim spec.toList))) ∧
    ∀ members : List (String × Json), (Json.Object.names members).Nodup → ∀ m ∈ members,
      ((Wpm.field m).required = true ↔ TakesMarkOff (Wpm.typeString m.2)) ∧
      (m.1 ∈ requiredIds (members.map fun m => (m.1, Wpm.typeString m.2)) ↔
        TakesMarkOff (Wpm.typeString m.2)) := by
  refine ⟨requiredIds_sublist fields, fun id spec h => ?_,
    fun spec => ⟨takesMarkOff_iff, fieldType_of_not_takesMarkOff⟩, fun members hnames m hm => ?_⟩
  · rw [mem_requiredIds_iff hids h, isRequired_iff]
  · have hrequired : (Wpm.field m).required = true ↔ TakesMarkOff (Wpm.typeString m.2) := by
      change isRequired (Wpm.typeString m.2) = true ↔ _
      rw [isRequired_iff, and_iff_left (not_endsBlank_typeString m.2)]
    exact ⟨hrequired, (Wpm.required_iff_mem_requiredIds hnames hm).symm.trans hrequired⟩

/-- Type strings with white space in front, before and behind the mark, two marks and no name. -/
def specimen : List (String × String) :=
  [("did", "\u00a0did !"), ("note", "x!!"), ("born", "date!\u3000"), ("blank", "!"),
    ("name", "text")]

/-- Of the marks that are taken off, the one with white space behind it lists no id. -/
theorem mem_requiredIds_iff_takesMarkOff_specimen :
    (specimen.map Prod.fst).Nodup ∧ requiredIds specimen = ["did", "note", "blank"] ∧
      TakesMarkOff "\u00a0did !" ∧ (TakesMarkOff "date!\u3000" ∧ EndsBlank "date!\u3000") ∧
      ¬TakesMarkOff "text" ∧ fieldType "text" = .text := by
  have hids : (specimen.map Prod.fst).Nodup := by decide
  obtain ⟨-, hlisted, hmark, -⟩ := mem_requiredIds_iff_takesMarkOff specimen hids
  have hkeys : requiredIds specimen = ["did", "note", "blank"] := by decide
  have hdid := (hlisted "did" _ List.mem_cons_self).mp (by decide)
  have hborn : TakesMarkOff "date!\u3000" := (hmark _).1.mpr (by decide)
  have hend : EndsBlank "date!\u3000" := by
    by_contra hend
    exact absurd ((hlisted "born" _ (by decide)).mpr ⟨hborn, hend⟩) (by decide)
  have hname : ¬TakesMarkOff "text" := fun h => absurd ((hmark _).1.mp h) (by decide)
  exact ⟨hids, hkeys, hdid.1, ⟨hborn, hend⟩, hname, (hmark _).2 hname⟩

/-- A mark with a space behind it is taken off, and the id is not listed. -/
theorem mark_taken_off_unlisted :
    ¬∀ fields : List (String × String), (fields.map Prod.fst).Nodup → ∀ id spec,
      (id, spec) ∈ fields → (id ∈ requiredIds fields ↔ TakesMarkOff spec) := by
  intro h
  have hiff := h [("born", "date! ")] (by decide) "born" "date! " (by decide)
  exact absurd (hiff.mpr (takesMarkOff_iff.mpr (by decide))) (by decide)

end Issuance.TypeString

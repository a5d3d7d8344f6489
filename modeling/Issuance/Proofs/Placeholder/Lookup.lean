import Issuance.Placeholder
import Issuance.Proofs.Text.Filling

/-! # What filling asks for

    A value is looked up by the first name of its path before all others. So what comes of filling a
    text depends on the values under the first names of the paths in it, and on nothing else. -/

namespace Issuance

namespace Text

/-- The first of the pieces between separators ends before the first separator. -/
theorem exists_splitOn (sep : Char) : ∀ s : List Char,
    ∃ others, splitOn sep s = s.takeWhile (· != sep) :: others
  | [] => ⟨[], rfl⟩
  | c :: rest => by
    obtain ⟨others, hrest⟩ := exists_splitOn sep rest
    by_cases hc : c = sep
    · exact ⟨splitOn sep rest, by simp [splitOn, hc]⟩
    · exact ⟨others, by simp [splitOn, hc, hrest]⟩

end Text

namespace Placeholder

/-- The name that a path starts with. -/
def firstName (path : List Char) : String := String.ofList (path.takeWhile (· != '.'))

variable {scope₁ scope₂ : Json.Object} {path content : List Char} {g : Grammar} {b : Builtins}

theorem value?_congr (h : scope₁.get? (firstName path) = scope₂.get? (firstName path)) :
    value? scope₁ path = value? scope₂ path := by
  obtain ⟨others, hsplit⟩ := Text.exists_splitOn '.' path
  rw [value?, value?, hsplit, descend, descend, Json.member?, Json.member?, ← firstName, h]

theorem fill_congr (escaping : Escaping)
    (h : scope₁.get? (firstName path) = scope₂.get? (firstName path)) :
    fill escaping scope₁ path = fill escaping scope₂ path := by
  rw [fill, fill, lookup, lookup, value?_congr h]

/-- Two scopes with the same values under the first names of all paths fill a text the same way. -/
theorem fillAll_congr (escaping : Escaping) (h : ∀ path ∈ paths g (fillBuiltins b content),
    scope₁.get? (firstName path) = scope₂.get? (firstName path)) :
    fillAll g escaping b scope₁ content = fillAll g escaping b scope₂ content :=
  Text.fillPieces_congr fun path hpath => fill_congr escaping (h path hpath)

/-- They also leave the same placeholders without a value. -/
theorem missing_congr (h : ∀ path ∈ paths g (fillBuiltins b content),
    scope₁.get? (firstName path) = scope₂.get? (firstName path)) :
    missing g b scope₁ content = missing g b scope₂ content :=
  List.filter_congr fun path hpath => by rw [value?_congr (h path hpath)]

end Placeholder
end Issuance

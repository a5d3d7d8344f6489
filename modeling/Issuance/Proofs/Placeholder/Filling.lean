import Issuance.Proofs.Placeholder.Document

/-! # Filling a JSON text

    The three walks of a filling, for the time, for the id and for the paths, each turn a text of a
    value into a text of the value with its names and strings filled the same way. So filling a
    whole text with escaped values comes to filling each name and each string with the values as
    they are. -/

namespace Issuance.Placeholder

open Json (Spelling Literal Leaf Writes)
open Text (pieces hits fillPieces)

/-- A string with the two reserved placeholders filled. -/
def builtinsFilled (b : Builtins) (s : String) : String := String.ofList (fillBuiltins b s.toList)

/-- A string with its placeholders filled, values as they are. -/
def verbatimFilled (g : Grammar) (b : Builtins) (scope : Json.Object) (s : String) : String :=
  String.ofList (fillAll g .verbatim b scope s.toList)

variable {σ τ : Spelling} {v : Json} {text : List Char} {g : Grammar} {b : Builtins}
  {scope : Json.Object}

/-! ### The walks -/

theorem isFinder_now : IsFinder (Text.literal nowPlaceholder) := isFinder_literal (by decide)

theorem isFinder_uuid : IsFinder (Text.literal uuidPlaceholder) := isFinder_literal (by decide)

/-- Escaped values are the values, escaped. -/
theorem fill_jsonString (scope : Json.Object) (path : List Char) :
    fill .jsonString scope path = Json.escape (fill .verbatim scope path) := by
  rw [fill, fill]
  cases lookup scope path <;> rfl

theorem builtinsFilled_eq_comp (b : Builtins) :
    builtinsFilled b = fillText (Text.literal uuidPlaceholder) (fun _ => b.uuid) ∘
      fillText (Text.literal nowPlaceholder) (fun _ => b.now) := by
  funext s
  simp [builtinsFilled, fillBuiltins, fillText, Text.replace]

theorem verbatimFilled_eq_comp (g : Grammar) (b : Builtins) (scope : Json.Object) :
    verbatimFilled g b scope =
      fillText (Placeholder.find g) (fill .verbatim scope) ∘ builtinsFilled b := by
  funext s
  simp [verbatimFilled, builtinsFilled, fillAll, fillPaths, fillText]

/-! ### Filling a text of a value -/

/-- The reserved placeholders, where what stands for them spells itself. -/
theorem writes_fillBuiltins (hσ : Tame σ) (hnow : Literal σ b.now b.now)
    (huuid : Literal σ b.uuid b.uuid) (h : Writes σ v text) :
    Writes σ (v.mapTexts (builtinsFilled b) (builtinsFilled b)) (fillBuiltins b text) := by
  have h₁ := (exists_holds_of_writes isFinder_now hσ h).2 (f := fun _ => b.now) (fun _ _ hw => hw)
    fun _ => hnow
  have h₂ := (exists_holds_of_writes isFinder_uuid hσ h₁).2 (f := fun _ => b.uuid)
    (fun _ _ hw => hw) fun _ => huuid
  rwa [Json.mapTexts_mapTexts, ← builtinsFilled_eq_comp] at h₂

/-- All placeholders, with escaped values. -/
theorem writes_fillAll (hσ : Tame σ) (hnow : Literal σ b.now b.now)
    (huuid : Literal σ b.uuid b.uuid) (hστ : ∀ c w, σ c w → τ c w)
    (hτ : ∀ c w, Spelling.Canonical c w → τ c w) (h : Writes σ v text) :
    Writes τ (v.mapTexts (verbatimFilled g b scope) (verbatimFilled g b scope))
      (fillAll g .jsonString b scope text) := by
  have hbuiltins := writes_fillBuiltins hσ hnow huuid h
  have hpaths := (exists_holds_of_writes (isFinder_find g) hσ hbuiltins).2
    (f := fill .verbatim scope) (g := fill .jsonString scope) hστ fun path => by
      rw [fill_jsonString]
      exact (Literal.escape _).mono hτ
  rwa [Json.mapTexts_mapTexts, ← verbatimFilled_eq_comp] at hpaths

/-- The paths that filling comes across are those of the names and strings, in order. -/
theorem paths_fillBuiltins (g : Grammar) (hσ : Tame σ) (hnow : Literal σ b.now b.now)
    (huuid : Literal σ b.uuid b.uuid) (h : Writes σ v text) :
    paths g (fillBuiltins b text) =
      (v.mapTexts (builtinsFilled b) (builtinsFilled b)).leaves.flatMap
        (leafHits (Placeholder.find g)) :=
  (exists_holds_of_writes (isFinder_find g) hσ (writes_fillBuiltins hσ hnow huuid h)).1

/-! ### Values as they are -/

/-- Escaping changes nothing where every value asked for may stand in a literal as it is. -/
theorem fillAll_verbatim_eq (h : ∀ path ∈ paths g (fillBuiltins b text), ∀ value,
    lookup scope path = some value → ∀ c ∈ value, Json.isRaw c = true) :
    fillAll g .verbatim b scope text = fillAll g .jsonString b scope text := by
  refine Text.fillPieces_congr fun path hpath => ?_
  rw [fill_jsonString, fill]
  split
  · next value hvalue => exact (Json.escape_eq_self (h path hpath value hvalue)).symm
  · rfl

/-! ### Single strings -/

/-- A string without placeholders is left as it is. -/
theorem verbatimFilled_eq_self {s : String} (h : g.AsksNothing s.toList) :
    verbatimFilled g b scope s = s := by
  rw [verbatimFilled, fillAll_eq_self h, String.ofList_toList]

/-- A placeholder that is not reserved becomes the value under its path. -/
theorem verbatimFilled_ofPath {path : List Char} (hpath : g.HasPath path)
    (hnow : "now".toList ≠ path) (huuid : "uuid".toList ≠ path) :
    verbatimFilled g b scope (String.ofList (ofPath path)) =
      String.ofList (fill .verbatim scope path) := by
  have hbuiltins : fillBuiltins b (ofPath path) = ofPath path := by
    simpa using fillBuiltins_ofPath b hpath.unbraced hnow huuid [] []
  have hpaths : fillPaths g .verbatim scope (ofPath path) = fill .verbatim scope path := by
    have hpaths : fillPaths g .verbatim scope ([] ++ (ofPath path ++ [])) = _ :=
      fillPaths_ofPath hpath [] []
    rwa [fillPaths_nil, List.append_nil, List.append_nil, List.nil_append, List.nil_append]
      at hpaths
  rw [verbatimFilled, String.toList_ofList, fillAll, hbuiltins, hpaths]

/-- The placeholder of the time becomes the time, which holds no placeholder itself. -/
theorem verbatimFilled_now (h : '{' ∉ b.now) :
    verbatimFilled g b scope (String.ofList nowPlaceholder) = String.ofList b.now := by
  have hnow : Text.replace nowPlaceholder b.now nowPlaceholder = b.now := by
    have hreplace : Text.replace nowPlaceholder b.now ([] ++ (nowPlaceholder ++ [])) = _ :=
      replace_ofPath (by decide) (by decide) [] []
    simpa using hreplace
  have huuid : ¬uuidPlaceholder <:+: b.now := fun hsub => h (hsub.subset List.mem_cons_self)
  rw [verbatimFilled, String.toList_ofList, fillAll, fillBuiltins, hnow, Text.replace_eq_self huuid,
    fillPaths_eq_self (asksNothing_of_no_brace h)]

/-- The placeholder of the id becomes the id, which holds no placeholder itself. -/
theorem verbatimFilled_uuid (h : '{' ∉ b.uuid) :
    verbatimFilled g b scope (String.ofList uuidPlaceholder) = String.ofList b.uuid := by
  have hbuiltins : fillBuiltins b uuidPlaceholder = b.uuid := by
    simpa using fillBuiltins_uuid b [] []
  rw [verbatimFilled, String.toList_ofList, fillAll, hbuiltins,
    fillPaths_eq_self (asksNothing_of_no_brace h)]

end Issuance.Placeholder

import Issuance.Text.Blank
import Mathlib.Tactic.SplitIfs

/-! # Texts as bytes

    A text is stored and sent as its UTF-8 bytes. Each character has bytes of its own, and the byte
    of the line feed is not among those of any other character; so a line feed ends the bytes of a
    line, and of no part of it. -/

namespace Issuance.Text

/-- The bytes of a text in UTF-8. -/
def bytes (s : List Char) : List UInt8 := (String.ofList s).toUTF8.data.toList

theorem bytes_eq_flatMap (s : List Char) : bytes s = s.flatMap String.utf8EncodeChar := by
  rw [bytes, String.toUTF8_eq_toByteArray, String.toByteArray_ofList, List.utf8Encode,
    List.toList_data_toByteArray]

theorem bytes_append (s t : List Char) : bytes (s ++ t) = bytes s ++ bytes t := by
  rw [bytes_eq_flatMap, bytes_eq_flatMap, bytes_eq_flatMap, List.flatMap_append]

/-- The bytes of a text are read as the text. -/
theorem fromUTF8?_bytes (s : List Char) :
    String.fromUTF8? ⟨(bytes s).toArray⟩ = some (String.ofList s) := by
  change String.fromUTF8? (String.ofList s).toByteArray = _
  rw [String.fromUTF8?, dif_pos (String.ofList s).isValidUTF8]
  rfl

/-- Only the line feed has its byte: characters of several bytes have bytes from 128 on. -/
theorem eq_newline_of_mem_utf8EncodeChar {c : Char} (h : 10 ∈ String.utf8EncodeChar c) :
    c = '\n' := by
  have hbyte : ∀ {k : Nat}, 10 = UInt8.ofNat k → k % 256 = 10 := fun hk =>
    (congrArg UInt8.toNat hk).symm
  rw [String.utf8EncodeChar] at h
  split_ifs at h with h₁ h₂ h₃
  · have hmod := hbyte (List.mem_singleton.mp h)
    refine Char.ext (UInt32.toNat_inj.mp ?_)
    change c.val.toNat = 10
    omega
  · simp only [List.mem_cons, List.not_mem_nil, or_false] at h
    rcases h with h | h
    all_goals exact absurd (hbyte h) (by omega)
  · simp only [List.mem_cons, List.not_mem_nil, or_false] at h
    rcases h with h | h | h
    all_goals exact absurd (hbyte h) (by omega)
  · simp only [List.mem_cons, List.not_mem_nil, or_false] at h
    rcases h with h | h | h | h
    all_goals exact absurd (hbyte h) (by omega)

theorem newline_not_mem_bytes {s : List Char} (h : '\n' ∉ s) : 10 ∉ bytes s := by
  rw [bytes_eq_flatMap]
  intro hmem
  obtain ⟨c, hc, hbyte⟩ := List.mem_flatMap.mp hmem
  exact h (eq_newline_of_mem_utf8EncodeChar hbyte ▸ hc)

end Issuance.Text

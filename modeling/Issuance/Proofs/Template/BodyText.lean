import Issuance.Proofs.Template.Wpml
import Issuance.Proofs.Template.Wpt

/-! # One body in two formats

    A body text can stand behind the `[body]` of a WPML header and behind the `---` of a WPT header.
    What a template holds besides its skeleton is then settled by the header alone. The first format
    drops the blank lines of the body and the second keeps them; otherwise both take its lines as
    they are, and trim the whole. So the two skeletons differ in white space behind line feeds
    alone. -/

namespace Issuance

open Json (Blank Respaced)
open Text (EndsLine lineOf)

/-- A text that can stand as a body in either format: not blank, with no line that would open a
    section, and with no other white space in its blank lines than spaces, tabs and returns. -/
structure IsBodyText (content : List Char) : Prop where
  not_blank : Text.allBlank content = false
  no_marker : ∀ line ∈ Text.lines content, ¬Wpml.fieldsMarker <+: line ∧ ¬Wpml.bodyMarker <+: line
  blank_lines : ∀ line ∈ Text.lines content, Text.allBlank line = true →
    ∀ c ∈ line, c = ' ' ∨ c = '\t' ∨ c = '\r'

variable {header content : List Char} {s : Summary}

theorem IsBodyText.blank_of_mem (h : IsBodyText content) :
    ∀ line ∈ Text.lines content, Text.allBlank line = true → Blank line := by
  intro line hline hblank c hc
  rcases h.blank_lines line hline hblank c hc with rfl | rfl | rfl <;> decide

theorem IsBodyText.all_lines (h : IsBodyText content) :
    (Text.lines content).all Text.allBlank = false := by
  rw [Text.all_allBlank_lines, h.not_blank]

/-- One letter is a body. -/
theorem isBodyText_letter : IsBodyText ['x'] where
  not_blank := by decide
  no_marker := by decide
  blank_lines := by decide

namespace Wpml

/-- A text with a body behind its header. -/
def withBody (header content : List Char) : List Char := header ++ (lineOf bodyMarker ++ content)

/-- A header for a summary: its last line ends, it holds no line of a body, and behind it any body
    makes a template with the summary; to say so, one letter does. -/
structure Heads (header : List Char) (s : Summary) : Prop where
  endsLine : EndsLine header
  no_body : linesIn .body header = []
  summary : (Template.load .wpml (withBody header ['x'])).outcome.map Template.toSummary = .ok s

theorem linesIn_withBody (hheader : EndsLine header) (hbody : IsBodyText content) (part : Part) :
    linesIn part (withBody header content) = linesIn part header ++
      if .body = part then (Text.lines content).filter (!Text.allBlank ·) else [] := by
  have hmarker : Text.lines (lineOf bodyMarker) = [bodyMarker] :=
    Text.lines_lineOf ⟨by decide, by decide⟩
  have hopens : opens? bodyMarker = some .body := by decide
  have hsift := sift_of_no_marker part .body fun line hline =>
    opens?_eq_none_iff.mpr (hbody.no_marker line hline)
  rw [linesIn_eq_sift, linesIn_eq_sift, withBody, Text.lines_append hheader,
    Text.lines_append (Text.endsLine_lineOf bodyMarker), hmarker, sift_append,
    List.singleton_append, sift_cons, hopens, Option.getD_some, hsift]
  simp

/-- Behind the header of a summary a body makes the template of the summary, without the blank lines
    of the body. -/
theorem template_withBody (h : Heads header s) (hbody : IsBodyText content) :
    ∃ t, template (withBody header content) = .ok t ∧ t.toSummary = s ∧ t.skeleton =
      .text (String.ofList (Text.trim
        (((Text.lines content).filter (!Text.allBlank ·)).flatMap lineOf))) := by
  obtain ⟨t₀, ht₀, rfl⟩ := Json.map_eq_ok h.summary
  have hbodyLines : linesIn .body (withBody header content) =
      (Text.lines content).filter (!Text.allBlank ·) := by
    rw [linesIn_withBody h.endsLine hbody, h.no_body]
    rfl
  have hothers : ∀ part, part ≠ .body →
      linesIn part (withBody header ['x']) = linesIn part (withBody header content) := by
    intro part hpart
    rw [linesIn_withBody h.endsLine hbody, linesIn_withBody h.endsLine isBodyText_letter,
      if_neg hpart.symm, if_neg hpart.symm]
  have hheader := hothers .header (by decide)
  have hfields := hothers .fields (by decide)
  obtain ⟨key, name, hkey, hname, -, rfl⟩ := template_eq_ok_iff.mp (refuse_eq_ok_iff.mp ht₀)
  refine ⟨_, template_eq_ok_iff.mpr ⟨key, name, ?_, ?_, ?_, rfl⟩, ?_, ?_⟩
  · rw [← hkey, headerValue?, headerValue?, hheader]
  · rw [← hname, headerValue?, headerValue?, hheader]
  · rw [hbodyLines]
    intro hnil
    have hall := hbody.all_lines
    rw [List.all_eq_false] at hall
    obtain ⟨line, hline, hblank⟩ := hall
    exact List.filter_eq_nil_iff.mp hnil line hline (by simpa using hblank)
  · simp only [Template.ofParts, contextOf?, fieldsOf, headerValue?, hheader, hfields]
  · rw [Text.trim_flatMap_lineOf, ← hbodyLines, ← body_eq]
    rfl

end Wpml

namespace Wpt

/-- A text with a body behind its header. -/
def withBody (header content : List Char) : List Char := header ++ (lineOf separator ++ content)

/-- A header for a summary: its last line ends, no line of it is a separator, and behind it any body
    makes a template with the summary; to say so, one letter does. -/
structure Heads (header : List Char) (s : Summary) : Prop where
  endsLine : EndsLine header
  no_separator : ∀ line ∈ Text.lines header, isSeparator line = false
  summary : (Template.load .wpt (withBody header ['x'])).outcome.map Template.toSummary = .ok s

theorem lines_withBody (hheader : EndsLine header) (content : List Char) :
    Text.lines (withBody header content) =
      Text.lines header ++ separator :: Text.lines content := by
  have hseparator : Text.lines (lineOf separator) = [separator] :=
    Text.lines_lineOf ⟨by decide, by decide⟩
  rw [withBody, Text.lines_append hheader, Text.lines_append (Text.endsLine_lineOf separator),
    hseparator, List.singleton_append]

theorem headerLines_withBody (h : Heads header s) (content : List Char) :
    headerLines (withBody header content) = headerLines header := by
  have hall : ∀ line ∈ Text.lines header, (!isSeparator line) = true := by
    simpa using h.no_separator
  have hstop : (!isSeparator separator) = false := by decide
  rw [headerLines, headerLines, lines_withBody h.endsLine, List.takeWhile_append_of_pos hall,
    List.takeWhile_cons_of_neg (by simp [hstop]), List.append_nil,
    List.takeWhile_eq_self_iff.mpr hall]

theorem body_withBody (h : Heads header s) (content : List Char) :
    body (withBody header content) = Text.trim ((Text.lines content).flatMap lineOf) := by
  have hall : ∀ line ∈ Text.lines header, (!isSeparator line) = true := by
    simpa using h.no_separator
  have hstop : (!isSeparator separator) = false := by decide
  rw [body, lines_withBody h.endsLine, List.dropWhile_append_of_pos hall,
    List.dropWhile_cons_of_neg (by simp [hstop])]
  rfl

/-- Behind the header of a summary a body makes the template of the summary, with the blank lines of
    the body. -/
theorem template_withBody (h : Heads header s) (hbody : IsBodyText content) :
    ∃ t, template (withBody header content) = .ok t ∧ t.toSummary = s ∧ t.skeleton =
      .text (String.ofList (Text.trim ((Text.lines content).flatMap lineOf))) := by
  have hsame : headerLines (withBody header content) = headerLines (withBody header ['x']) := by
    rw [headerLines_withBody h, headerLines_withBody h]
  have hsummary : (template (withBody header content)).map Template.toSummary = .ok s := by
    have hletter : refuse ((template (withBody header ['x'])).map Template.toSummary) = .ok s := by
      rw [← map_refuse]
      exact h.summary
    rw [map_toSummary_template hsame]
    exact refuse_eq_ok_iff.mp hletter
  obtain ⟨t, ht, hts⟩ := Json.map_eq_ok hsummary
  refine ⟨t, ht, hts, ?_⟩
  have hfilled : ¬body (withBody header content) = [] := by
    rw [body_withBody h, Text.trim_eq_nil_iff, Text.allBlank_flatMap_lineOf, hbody.all_lines]
    decide
  obtain ⟨-, -, key, -, rfl⟩ := template_eq_ok_iff.mp ht
  rw [← body_withBody h, templateOf_eq]
  exact if_neg hfilled

end Wpt

/-! ### The same body -/

/-- The two skeletons of a body differ in white space behind line feeds alone. -/
theorem IsBodyText.respaced (h : IsBodyText content) :
    Respaced (Text.trim (((Text.lines content).filter (!Text.allBlank ·)).flatMap lineOf))
      (Text.trim ((Text.lines content).flatMap lineOf)) := by
  have hstart : ∀ text, Text.trim ('\n' :: text) = Text.trim text :=
    Text.trim_append_left (w := ['\n']) (by decide)
  have htrim := Text.respaced_trim (Text.respaced_filter_lines h.blank_of_mem)
  rw [hstart, hstart] at htrim
  exact htrim.symm

end Issuance

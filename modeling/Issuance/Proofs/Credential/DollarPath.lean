import Issuance.Proofs.Credential.ContextLiteral
import Issuance.Proofs.Credential.Noninterference
import Issuance.Proofs.Placeholder.Dollar
import Issuance.Proofs.Placeholder.Occurrence

/-! # Paths that start with a dollar sign

    A text may ask for the context by a path with a dollar sign, and its grammar lets every other
    path start with one as well. With a context, its own path has the context for its value whatever
    a form holds. Every other path with a dollar sign, and without a context that one too, is looked
    up in the form like any path; in an object such paths are no placeholders. -/

namespace Issuance

namespace Template

open Placeholder (ofPath)
open Text (pieces)

variable {path : List Char}

/-- The string that stands for the context lies in no placeholder and reaches over none. -/
theorem replace_contextLiteral_around (hquote : '"' ∉ path) (new s t : List Char) :
    Text.replace contextLiteral new (s ++ (ofPath path ++ t)) =
      Text.replace contextLiteral new s ++ (ofPath path ++ Text.replace contextLiteral new t) := by
  have hplaceholder : '"' ∉ ofPath path := by
    simpa [ofPath, Placeholder.opening, Placeholder.closing] using hquote
  have hbefore := Text.pieces_literal_append_cons (by decide : '{' ∉ contextLiteral) s
    ('{' :: (path ++ Placeholder.closing) ++ t)
  have hbehind : pieces (Text.literal contextLiteral) (ofPath path ++ t) =
      (ofPath path).map .char ++ pieces (Text.literal contextLiteral) t := by
    rw [contextLiteral_eq]
    exact Text.pieces_literal_append_of_not_mem hplaceholder t
  change pieces _ (s ++ (ofPath path ++ t)) = _ ++ pieces _ (ofPath path ++ t) at hbefore
  rw [Text.replace, hbefore, hbehind, Text.fillPieces_append, Text.fillPieces_append,
    Text.fillPieces_map_char]
  rfl

/-! ### The text of a template around a placeholder -/

/-- The template with a text for its skeleton. -/
def withText (t : Template) (s : List Char) : Template :=
  { t with skeleton := .text (String.ofList s) }

variable {t : Template} {s u : List Char} {escaping : Placeholder.Escaping}
  {b : Placeholder.Builtins} {ctx : RenderContext}

theorem source_withText_around (hquote : '"' ∉ path) :
    (t.withText (s ++ (ofPath path ++ u))).source =
      (t.withText s).source ++ (ofPath path ++ (t.withText u).source) := by
  cases hcontext : t.context with
  | none => simp [source, withText, hcontext]
  | some c => simp [source, withText, hcontext, replace_contextLiteral_around hquote]

theorem scope_withText_of_none (h : t.context = none) :
    (t.withText s).scope ctx = (t.values ctx.form).insert "org" ctx.org.toJson := by
  simp [scope, withText, values, h]

theorem scope_withText_of_some {c : String} (h : t.context = some c) :
    (t.withText s).scope ctx =
      ((t.values ctx.form).insert "org" ctx.org.toJson).insert contextName (.string c) := by
  simp [scope, withText, values, h]

theorem scope_withText (t : Template) (s u : List Char) (ctx : RenderContext) :
    (t.withText s).scope ctx = (t.withText u).scope ctx := by
  cases hcontext : t.context with
  | none => rw [scope_withText_of_none hcontext, scope_withText_of_none hcontext]
  | some c => rw [scope_withText_of_some hcontext, scope_withText_of_some hcontext]

theorem filled_withText_around (hpath : Placeholder.Grammar.HasPath { dollar := true } path)
    (hquote : '"' ∉ path) (hnow : "now".toList ≠ path) (huuid : "uuid".toList ≠ path) :
    (t.withText (s ++ (ofPath path ++ u))).filled escaping b ctx =
      (t.withText s).filled escaping b ctx ++
        (Placeholder.fill escaping ((t.withText []).scope ctx) path ++
          (t.withText u).filled escaping b ctx) := by
  simp only [filled, Placeholder.fillAll, source_withText_around hquote,
    Placeholder.fillBuiltins_ofPath b hpath.unbraced hnow huuid, scope_withText t _ [] ctx]
  exact Placeholder.fillPaths_ofPath hpath _ _

/-! ### What a path with a dollar sign finds -/

/-- A path without dots is the name of a member. -/
theorem value?_of_no_dot {scope : Json.Object} (h : '.' ∉ path) :
    Placeholder.value? scope path = scope.get? (String.ofList path) := by
  rw [Placeholder.value?, Text.splitOn_of_not_mem h, Placeholder.descend]
  exact Option.bind_fun_some _

/-- A longer path that starts with the name of a string has no value. -/
theorem value?_of_string {scope : Json.Object} {c : String}
    (hget : scope.get? (Placeholder.firstName path) = some (.string c))
    (hlonger : String.ofList path ≠ Placeholder.firstName path) :
    Placeholder.value? scope path = none := by
  obtain ⟨others, hsplit⟩ := Text.exists_splitOn '.' path
  have hothers : others ≠ [] := by
    rintro rfl
    obtain ⟨-, ⟨hname, -⟩ | ⟨rest, -, hrest⟩⟩ := Text.splitOn_eq_cons_iff.mp hsplit
    · exact hlonger (congrArg String.ofList hname)
    · exact Text.splitOn_ne_nil '.' rest hrest
  obtain ⟨name, rest, rfl⟩ := List.exists_cons_of_ne_nil hothers
  rw [Placeholder.value?, hsplit, Placeholder.descend, Json.member?, ← Placeholder.firstName, hget]
  rfl

theorem firstName_dollar_ne_org (word : List Char) :
    Placeholder.firstName ('$' :: word) ≠ "org" := by
  intro h
  have hhead := congrArg (fun s => s.toList.head?) h
  simp [Placeholder.firstName] at hhead

/-- The path of the context has the context for its value, whatever the form holds. -/
theorem fill_contextName {c : String} (hcontext : t.context = some c) :
    Placeholder.fill escaping ((t.withText []).scope ctx) contextName.toList =
      escaping.apply c.toList := by
  have hvalue : Placeholder.value? ((t.withText []).scope ctx) contextName.toList =
      some (.string c) := by
    rw [value?_of_no_dot (by decide), String.ofList_toList, scope_withText_of_some hcontext,
      Json.Object.get?_insert_self]
  rw [Placeholder.fill, Placeholder.lookup, hvalue]
  rfl

/-- A longer path that starts with the name of the context has no value. -/
theorem fill_of_contextName {c : String} (hcontext : t.context = some c)
    (hfirst : Placeholder.firstName path = contextName) (hlonger : path ≠ contextName.toList) :
    Placeholder.fill escaping ((t.withText []).scope ctx) path = [] := by
  have hget : ((t.withText []).scope ctx).get? (Placeholder.firstName path) = some (.string c) := by
    rw [hfirst, scope_withText_of_some hcontext, Json.Object.get?_insert_self]
  have hne : String.ofList path ≠ Placeholder.firstName path := by
    rw [hfirst]
    rintro heq
    exact hlonger (by rw [← heq, String.toList_ofList])
  rw [Placeholder.fill, Placeholder.lookup, value?_of_string hget hne]
  rfl

/-- Any other path with a dollar sign has the value that the form has for it. -/
theorem fill_dollar {word : List Char}
    (h : t.context = none ∨ Placeholder.firstName ('$' :: word) ≠ contextName) :
    Placeholder.fill escaping ((t.withText []).scope ctx) ('$' :: word) =
      Placeholder.fill escaping (t.values ctx.form) ('$' :: word) := by
  have horg := Json.Object.get?_insert_of_ne (firstName_dollar_ne_org word).symm ctx.org.toJson
    (t.values ctx.form)
  refine Placeholder.fill_congr escaping ?_
  cases hcontext : t.context with
  | none => rw [scope_withText_of_none hcontext, horg]
  | some c =>
    have hname := h.resolve_left (by simp [hcontext])
    rw [scope_withText_of_some hcontext, Json.Object.get?_insert_of_ne hname.symm, horg]

/-- In an object a path with a dollar sign is no placeholder. -/
theorem filled_object_around {members : Json.Object} {word : List Char}
    (hskeleton : t.skeleton = .object members) (hword : ∀ c ∈ word, Placeholder.isPathChar c = true)
    (hsource : t.source = s ++ (ofPath ('$' :: word) ++ u)) :
    t.filled escaping b ctx =
      Placeholder.fillPaths t.grammar escaping (t.scope ctx) (Placeholder.fillBuiltins b s) ++
        (ofPath ('$' :: word) ++
          Placeholder.fillPaths t.grammar escaping (t.scope ctx) (Placeholder.fillBuiltins b u)) := by
  have hplain : Placeholder.Unbraced ('$' :: word) := by
    obtain ⟨hopen, hclose⟩ := Placeholder.unbraced_of_isPathChar hword
    exact ⟨List.not_mem_cons_of_ne_of_not_mem (by decide) hopen,
      List.not_mem_cons_of_ne_of_not_mem (by decide) hclose⟩
  have hgrammar : t.grammar = { dollar := false } := by rw [grammar, hskeleton]
  have hnot : ¬t.grammar.HasPath ('$' :: word) := fun hpath =>
    (hgrammar ▸ hpath).not_mem_dollar List.mem_cons_self
  rw [filled, Placeholder.fillAll, hsource,
    Placeholder.fillBuiltins_ofPath b hplain (by simp) (by simp)]
  exact Placeholder.fillPaths_ofPath_of_not hplain hnot _ _

/-- Wherever a path that starts with a dollar sign stands in a text, it is filled. With a context,
    the path of the context becomes the context, whatever the form holds, and a longer one becomes
    nothing. Every other one, and without a context that one too, becomes the value that the form
    has for it, or nothing. In an object such a path is left as it is. -/
theorem filled_dollar (t : Template) (escaping : Placeholder.Escaping) (b : Placeholder.Builtins)
    (ctx : RenderContext) (word : List Char) (hne : word ≠ [])
    (hword : ∀ c ∈ word, Placeholder.isPathChar c = true) (s u : List Char) :
    (∃ value,
      (t.withText (s ++ (ofPath ('$' :: word) ++ u))).filled escaping b ctx =
        (t.withText s).filled escaping b ctx ++
          (value ++ (t.withText u).filled escaping b ctx) ∧
      (∀ c, t.context = some c → '$' :: word = contextName.toList →
        value = escaping.apply c.toList) ∧
      (∀ c, t.context = some c → Placeholder.firstName ('$' :: word) = contextName →
        '$' :: word ≠ contextName.toList → value = []) ∧
      (t.context = none ∨ Placeholder.firstName ('$' :: word) ≠ contextName →
        value = Placeholder.fill escaping (t.values ctx.form) ('$' :: word))) ∧
    (∀ members, t.skeleton = .object members → t.source = s ++ (ofPath ('$' :: word) ++ u) →
      t.filled escaping b ctx =
        Placeholder.fillPaths t.grammar escaping (t.scope ctx) (Placeholder.fillBuiltins b s) ++
          (ofPath ('$' :: word) ++ Placeholder.fillPaths t.grammar escaping (t.scope ctx)
            (Placeholder.fillBuiltins b u))) := by
  have hquote : '"' ∉ '$' :: word :=
    List.not_mem_cons_of_ne_of_not_mem (by decide) fun hmem => absurd (hword _ hmem) (by decide)
  refine ⟨⟨_, filled_withText_around (.dollar rfl hne hword) hquote (by simp) (by simp), ?_⟩,
    fun members hskeleton hsource => filled_object_around hskeleton hword hsource⟩
  refine ⟨fun c hcontext hpath => ?_, fun c hcontext hfirst hlonger => ?_, fill_dollar⟩
  · rw [hpath]
    exact fill_contextName hcontext
  · exact fill_of_contextName hcontext hfirst hlonger

/-- A context whose form has a value for a path with a dollar sign. -/
def dollarContext : RenderContext := ⟨⟨"", []⟩, [("$x", .string "v")]⟩

/-- The placeholder of the path is filled in a text and left as it is in an object. -/
theorem filled_dollar_specimen :
    ((Specimen.template (.object [])).withText
        (['"'] ++ (ofPath ['$', 'x'] ++ ['"']))).filled .jsonString ⟨[], []⟩ dollarContext =
      ['"', 'v', '"'] ∧
      (Specimen.template (.object [("$x", Placeholder.slot "$x")])).filled .jsonString ⟨[], []⟩
        dollarContext = r#"{"$x":"{{$x}}"}"#.toList := by
  have hword : ∀ c ∈ ['x'], Placeholder.isPathChar c = true := Text.forall_mem_of_all (by decide)
  constructor
  · obtain ⟨⟨value, hfilled, -, -, hvalue⟩, -⟩ := filled_dollar (Specimen.template (.object []))
      .jsonString ⟨[], []⟩ dollarContext ['x'] (by decide) hword ['"'] ['"']
    rw [hfilled, hvalue (.inr (by decide))]
    decide +kernel
  · obtain ⟨-, hobject⟩ := filled_dollar (Specimen.template (.object [("$x", Placeholder.slot "$x")]))
      .jsonString ⟨[], []⟩ dollarContext ['x'] (by decide) hword r#"{"$x":""#.toList
        r#""}"#.toList
    rw [hobject _ rfl (by decide +kernel)]
    decide +kernel

/-- A text that asks for the context and by another path with a dollar sign. -/
def dollarText : List Char :=
  r#"{"a":"{{$x}}","b":"{{$context}}"}"#.toList

/-- A form decides what becomes of both where the template has no context. -/
theorem filled_dollar_by_form :
    (((Specimen.renderer .jsonString).render
        ({ Specimen.template (.object []) with context := none, fields := [] }.withText dollarText)
        ⟨⟨"", []⟩, [("$x", .string "v"), ("$context", .string "urn:forged")]⟩
        {}).result.outcome.toOption.map fun cred =>
      [(cred.body.get? "a").bind Json.text?, (cred.body.get? "b").bind Json.text?]) =
        some [some "v", some "urn:forged"] := by
  decide +kernel

end Template
end Issuance

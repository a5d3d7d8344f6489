import Issuance.Catalog.Presets
import Issuance.Template.Source

/-! # Catalogs

    A catalog holds templates under their keys, in the order in which they came. A key is taken by
    the first template that has it. -/

namespace Issuance

/-- Templates in the order in which they came, no two under one key. -/
structure Catalog where
  templates : List Template

namespace Catalog

/-- The catalog without templates. -/
def empty : Catalog := ⟨[]⟩

/-- The template under a key. -/
def find? (c : Catalog) (key : String) : Option Template := c.templates.find? fun t => t.key == key

/-- Adds a template at the end, if its key is free. -/
def insert (c : Catalog) (t : Template) : Except Error Catalog :=
  if (c.find? t.key).isSome then .error (.duplicateKey t.key) else .ok ⟨c.templates ++ [t]⟩

/-- The template under a key; it is an error if there is none. -/
def get (c : Catalog) (key : String) : Except Error Template :=
  match c.find? key with
  | some t => .ok t
  | none => .error (.presetNotFound key)

/-- The keys in the order of the templates. -/
def keys (c : Catalog) : List String := c.templates.map fun t => t.key

/-- The names in the order of the templates. -/
def names (c : Catalog) : List String := c.templates.map fun t => t.name

/-- The number of templates. -/
def size (c : Catalog) : Nat := c.templates.length

/-- Adds templates one after the other. -/
def insertAll : Catalog → List Template → Except Error Catalog
  | c, [] => .ok c
  | c, t :: rest => (c.insert t).bind fun c' => c'.insertAll rest

/-- The templates that texts describe, loaded in order. -/
def loadAll : List String → Traced Event (List Template)
  | [] => pure []
  | text :: rest => do
    let t ← Template.load .wpml text.toList
    let ts ← loadAll rest
    pure (t :: ts)

/-- The catalog of the presets. -/
def builtin : Traced Event Catalog := do
  let ts ← loadAll Preset.all
  .ofExcept (empty.insertAll ts)

end Catalog
end Issuance

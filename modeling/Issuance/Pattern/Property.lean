import Issuance.Pattern.CharClass
import Issuance.Text.Category
import Issuance.Text.Script
import Issuance.Text.Trait

/-! # Character classes by property

    A class can be named by a general category, a script or a trait of its characters. Names are
    compared without regard to case, blanks, hyphens, underscores, and an `is` in front. A name on
    its own means a trait before a category, and a category before a script. -/

namespace Issuance.CharClass

/-- The part of a name that counts. The short name of one property that only seems to start with
    `is` is kept whole. -/
def plainName (name : List Char) : String :=
  let small (s : List Char) : List Char :=
    (s.filter fun c => c.toNat < 0x80 && !(c == ' ' || c == '_' || c == '-')).map Char.toLower
  let start := (name.take 2).map Char.toLower
  if start = ['i', 's'] then
    let rest := small (name.drop 2)
    String.ofList (if rest = ['c'] then ['i', 's', 'c'] else rest)
  else String.ofList (small name)

/-- The characters of the categories whose short name starts with a text. -/
def ofCategories (start : String) : CharClass :=
  unions ((Text.categories.filter fun c => (c.names.headD "").startsWith start).map fun c =>
    ofText c.members)

/-- The names of categories that belong together, and how the short names of these start. -/
def categoryGroups : List (String × List String) :=
  [("l", ["l"]), ("letter", ["l"]), ("lc", ["lu", "ll", "lt"]),
   ("casedletter", ["lu", "ll", "lt"]), ("m", ["m"]), ("mark", ["m"]), ("combiningmark", ["m"]),
   ("n", ["n"]), ("number", ["n"]), ("p", ["p"]), ("punctuation", ["p"]), ("punct", ["p"]),
   ("s", ["s"]), ("symbol", ["s"]), ("z", ["z"]), ("separator", ["z"])]

/-- The characters that are assigned to a category. -/
def assigned : CharClass := ofCategories ""

/-- The class of a general category, or of several that belong together. The unassigned characters
    belong with the other ones. -/
def category? (name : String) : Option CharClass :=
  if name = "any" then some full
  else if name = "ascii" then some (ofText "0-7F")
  else if name = "assigned" then some assigned
  else if name = "cn" ∨ name = "unassigned" then some (.complement assigned)
  else if name = "c" ∨ name = "other" then
    some (.union (ofCategories "c") (.complement assigned))
  else
    match categoryGroups.lookup name with
    | some starts => some (unions (starts.map ofCategories))
    | none =>
      (Text.categories.find? fun c => c.names.contains name).map fun c => ofText c.members

/-- The class of a script. -/
def script? (name : String) : Option CharClass :=
  (Text.scripts.find? fun s => s.names.contains name).map fun s => ofText s.members

/-- The names of the scripts that stand for no script of their own. -/
def sharedScripts : List String := ["common", "zyyy", "inherited", "zinh", "qaai"]

/-- The class of the characters that are used with a script. What is used with particular scripts is
    no longer shared by all. -/
def scriptUse? (name : String) : Option CharClass :=
  (Text.scripts.find? fun s => s.names.contains name).map fun s =>
    if sharedScripts.contains name then
      .difference (ofText s.members) (unions (Text.scripts.map fun t => ofText t.borrowed))
    else .union (ofText s.members) (ofText s.borrowed)

/-- The class of a trait. -/
def trait? (name : String) : Option CharClass :=
  (Text.traits.find? fun t => t.names.contains name).map fun t =>
    .difference (unions (ofText t.added :: t.categories.map ofCategories)) (ofText t.removed)

/-- The class that a name on its own stands for. -/
def named? (name : List Char) : Option CharClass :=
  let name := plainName name
  (trait? name).or ((category? name).or (script? name))

/-- The class that the value of a property stands for. -/
def valued? (property value : List Char) : Option CharClass :=
  let property := plainName property
  let value := plainName value
  if ["gc", "generalcategory", "category"].contains property then category? value
  else if ["sc", "script"].contains property then script? value
  else if ["scx", "scriptextensions"].contains property then scriptUse? value
  else none

end Issuance.CharClass

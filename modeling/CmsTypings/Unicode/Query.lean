import CmsTypings.Unicode.Category
import CmsTypings.Unicode.Property
import CmsTypings.Unicode.Script

/-!
Code sets by the names of their properties, matched loosely: case, blanks, hyphens, underscores
and a leading "is" do not count.
-/

namespace CmsTypings.Unicode

/-- What of a name counts when names are compared. -/
def looseName (name : String) : String :=
  let cs := (name.toList.map Char.toLower).filter fun c => c.toNat ≤ 0x7F
  let isPrefixed := cs.take 2 = ['i', 's']
  let kept := (if isPrefixed then cs.drop 2 else cs).filter fun c => c ≠ ' ' ∧ c ≠ '_' ∧ c ≠ '-'
  String.ofList (if isPrefixed && kept = ['c'] then ['i', 's', 'c'] else kept)

/-- Whether a loose name is one of the names of an entry. -/
def named (name : String) (names : List String) : Bool := names.any fun n => looseName n == name

def category? (name : String) : Option CodeSet :=
  (Category.all.find? fun e => named name e.names).map (·.set)

def script? (name : String) : Option Script.Named :=
  Script.all.find? fun e => named name e.names

def property? (name : String) : Option CodeSet :=
  (Property.all.find? fun e => named name e.names).map (·.set)

/-- The set that a single name stands for: a property, a category or a script. Three abbreviations
of categories are abbreviations of properties too; they mean the category. -/
def setNamed? (text : String) : Option CodeSet :=
  let name := looseName text
  let property := if ["cf", "sc", "lc"].contains name then none else property? name
  property <|> category? name <|> (script? name).map (·.own)

/-- The set of the characters whose property has the given value. -/
def setWithValue? (property value : String) : Option CodeSet :=
  let value := looseName value
  match looseName property with
  | "gc" | "generalcategory" => category? value
  | "sc" | "script" => (script? value).map (·.own)
  | "scx" | "scriptextensions" => (script? value).map (·.used)
  | _ => none

end CmsTypings.Unicode

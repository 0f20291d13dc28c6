import CmsTypings.Json.Value

/-!
The attributes of a schema.

The type that an attribute declares decides which of its fields matter; every type may also be
required. A type that is not known keeps its tag.
-/

namespace CmsTypings

/-- How many targets a relation may have. -/
inductive Arity where
  | toOne | toMany
deriving DecidableEq, Repr

/-- A relation is to many when its kind ends so: `oneToMany`, `morphToMany`. -/
def Arity.ofRelation (relation : String) : Arity :=
  if "ToMany".toList.isSuffixOf relation.toList then .toMany else .toOne

inductive TextFormat where
  | string | text | richText | email | uid
deriving DecidableEq, Repr

inductive NumberFormat where
  | integer | bigInteger | decimal | float
deriving DecidableEq, Repr

inductive DateFormat where
  | date | dateTime | time | timestamp
deriving DecidableEq, Repr

/-- What an attribute holds. A default that is declared as null is still a default. -/
inductive Attribute.Content where
  | relation (arity : Arity) (target : Option String)
  | component (reference : String) (repeatable : Bool) (target : Option String)
  | dynamicZone (components : List String)
  | media (multiple : Bool)
  | enumeration (values : List String) (default : Option Json)
  | text (format : TextFormat)
  | password
  | json
  | number (format : NumberFormat) (default : Option Json)
  | date (format : DateFormat) (default : Option Json)
  | boolean (default : Option Json)
  | unknown (tag : String)

structure Attribute where
  content : Attribute.Content
  required : Bool

instance : Inhabited Attribute := ⟨⟨.password, false⟩⟩

namespace Attribute

/-- To-many relations and repeatable components hold lists. -/
def isArray (a : Attribute) : Bool :=
  match a.content with
  | .relation .toMany _ | .component _ true _ => true
  | _ => false

/-- An absent list is an empty one, so a list is never optional. -/
def isOptional (a : Attribute) : Bool := !a.isArray && !a.required

/-- The declared default, of the types that read one. -/
def default? (a : Attribute) : Option Json :=
  match a.content with
  | .enumeration _ d | .number _ d | .date _ d | .boolean d => d
  | _ => none

def hasDefault (a : Attribute) : Bool := a.default?.isSome

end Attribute

/-- The fields of an attribute as they are written, whatever its type. -/
structure AttributeFields where
  type : String := ""
  relation : Option String := none
  target : Option String := none
  component : Option String := none
  components : List String := []
  repeatable : Bool := false
  multiple : Bool := false
  required : Bool := false
  default : Option Json := none
  values : List String := []

/-- The fields that the type of an attribute makes use of. -/
def AttributeFields.content (f : AttributeFields) : Attribute.Content :=
  match f.type with
  | "relation" => .relation (.ofRelation (f.relation.getD "")) f.target
  | "component" => .component (f.component.getD "") f.repeatable f.target
  | "dynamiczone" => .dynamicZone f.components
  | "media" => .media f.multiple
  | "enumeration" => .enumeration f.values f.default
  | "string" => .text .string
  | "text" => .text .text
  | "richtext" => .text .richText
  | "email" => .text .email
  | "uid" => .text .uid
  | "password" => .password
  | "json" => .json
  | "integer" => .number .integer f.default
  | "biginteger" => .number .bigInteger f.default
  | "decimal" => .number .decimal f.default
  | "float" => .number .float f.default
  | "date" => .date .date f.default
  | "datetime" => .date .dateTime f.default
  | "time" => .date .time f.default
  | "timestamp" => .date .timestamp f.default
  | "boolean" => .boolean f.default
  | tag => .unknown tag

def AttributeFields.toAttribute (f : AttributeFields) : Attribute := ⟨f.content, f.required⟩

end CmsTypings

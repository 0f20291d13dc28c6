import CmsTypings.OrderedMap

/-!
JSON values.

A number is an integer of at most 64 bits, signed or unsigned, or a double. The members of an
object stand in the order in which their names were first written.
-/

namespace CmsTypings

inductive Json.Number where
  | integer (value : Int)
  | double (value : Float)

/-- A JSON value. -/
inductive Json where
  | null
  | bool (value : Bool)
  | number (value : Json.Number)
  | string (value : String)
  | array (items : List Json)
  | object (members : List (String × Json))

namespace Json

instance : Inhabited Json := ⟨.null⟩

/-- What sort of value a value is. -/
inductive Shape where
  | null | boolean | number | string | array | object
deriving DecidableEq, Repr

def shape : Json → Shape
  | .null => .null
  | .bool _ => .boolean
  | .number _ => .number
  | .string _ => .string
  | .array _ => .array
  | .object _ => .object

def isObject (value : Json) : Bool := value.shape = .object

def Shape.name : Shape → String
  | .null => "null"
  | .boolean => "boolean"
  | .number => "number"
  | .string => "string"
  | .array => "array"
  | .object => "object"

end Json

end CmsTypings

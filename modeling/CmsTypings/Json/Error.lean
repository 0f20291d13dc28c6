import CmsTypings.Decimal.Layout
import CmsTypings.Json.Value
import CmsTypings.Text.Quoted

/-!
What can be wrong with JSON, as causes, and the wording of each.

A fault is a defect of the text itself; the other errors say that a sound value is not of the
shape that was asked for.
-/

namespace CmsTypings.Json

inductive Fault where
  | endInList | endInObject | endInString | endOfText
  | colonExpected | commaOrBracketExpected | commaOrBraceExpected
  | wordExpected | valueExpected
  | escape | number | range | controlCharacter | keyExpected
  | loneSurrogate | endOfEscape | trailingComma | trailingText | nesting
deriving DecidableEq, Repr

def Fault.message : Fault → String
  | .endInList => "EOF while parsing a list"
  | .endInObject => "EOF while parsing an object"
  | .endInString => "EOF while parsing a string"
  | .endOfText => "EOF while parsing a value"
  | .colonExpected => "expected `:`"
  | .commaOrBracketExpected => "expected `,` or `]`"
  | .commaOrBraceExpected => "expected `,` or `\x7d`"
  | .wordExpected => "expected ident"
  | .valueExpected => "expected value"
  | .escape => "invalid escape"
  | .number => "invalid number"
  | .range => "number out of range"
  | .controlCharacter => "control character (\\u0000-\\u001F) found while parsing a string"
  | .keyExpected => "key must be a string"
  | .loneSurrogate => "lone leading surrogate in hex escape"
  | .endOfEscape => "unexpected end of hex escape"
  | .trailingComma => "trailing comma"
  | .trailingText => "trailing characters"
  | .nesting => "recursion limit exceeded"

/-- What stands where another shape was wanted. -/
inductive Found where
  | null | list | map
  | bool (value : Bool)
  | number (value : Number)
  | string (value : String)

def Number.describe : Number → String
  | .integer n => "integer `" ++ toString n ++ "`"
  | .double x => "floating point `" ++ Decimal.marked x ++ "`"

def Found.describe : Found → String
  | .null => "null"
  | .list => "sequence"
  | .map => "map"
  | .bool b => "boolean `" ++ (if b then "true" else "false") ++ "`"
  | .number n => n.describe
  | .string s => "string " ++ Text.Quoted.encode s

inductive Error where
  | fault (fault : Fault)
  | shape (found : Found) (wanted : String)
  | repeatedField (name : String)
  | tooLong (length : Nat)
  | noVariant (type : String)

def Error.message : Error → String
  | .fault f => f.message
  | .shape found wanted => "invalid type: " ++ found.describe ++ ", expected " ++ wanted
  | .repeatedField name => "duplicate field `" ++ name ++ "`"
  | .tooLong n => "invalid length " ++ toString n ++ ", expected fewer elements in array"
  | .noVariant type => "data did not match any variant of untagged enum " ++ type

end CmsTypings.Json

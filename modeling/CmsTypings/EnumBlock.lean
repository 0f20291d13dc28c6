import CmsTypings.Text.Literal
import CmsTypings.Text.Words
import CmsTypings.Unicode.Decomposition

/-!
Enumerations as declarations.

Each value becomes a member whose literal is the value itself. Its key is made of the ASCII letters
and digits of the value, accents taken off; a key that would read as a number gets an underscore.
Values that differ may have the same key.
-/

namespace CmsTypings

/-- The characters of a key before it is kept from reading as a number. -/
def bareKey (value : List Char) : List Char :=
  (Text.pascal (Unicode.Decomposition.nfd value)).filter Char.isAlphanum

/-- Whether a number, or the name of infinity, is read off the front of a key. -/
def readsAsNumber (key : List Char) : Bool :=
  key.head?.any Char.isDigit || "Infinity".toList.isPrefixOf key

def keyChars (value : List Char) : List Char :=
  let key := bareKey value
  if readsAsNumber key then '_' :: key else key

/-- The key of an enumeration's value. -/
def enumKey (value : String) : String := String.ofList (keyChars value.toList)

/-- The name of the enumeration of an attribute. -/
def enumName (owner property : String) : String := owner ++ "_" ++ Text.pascalCase property

structure EnumBlock where
  name : String
  values : List String
deriving DecidableEq, Repr

namespace EnumBlock

def memberLine (value : String) : String :=
  "  " ++ enumKey value ++ " = '" ++ Text.Literal.escape value ++ "',\n"

def header (name : String) : String := "export enum " ++ name ++ " \x7b\n"

def render (b : EnumBlock) : String :=
  header b.name ++ String.join (b.values.map memberLine) ++ "\x7d\n"

end EnumBlock

end CmsTypings

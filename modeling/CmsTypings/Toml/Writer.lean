import CmsTypings.Decimal.Layout
import CmsTypings.Toml.Document

/-!
The writing of a TOML document.

A string goes between double quotes with its special characters escaped, unless a backslash or a
double quote in it makes single quotes nicer and they can hold it. Arrays of tables become
sections at the end of the document.
-/

namespace CmsTypings.Toml

namespace Text

/-! ### Strings -/

def hexDigits (n : Nat) : List Char :=
  let ds := (Nat.toDigits 16 n).map Char.toUpper
  List.replicate (4 - ds.length) '0' ++ ds

/-- A character between double quotes; between triple ones a line end stands for itself. -/
def escape (lines : Bool) (c : Char) : List Char :=
  if c = '\n' then if lines then ['\n'] else ['\\', 'n']
  else if c = '\x08' then ['\\', 'b']
  else if c = '\t' then ['\\', 't']
  else if c = '\x0c' then ['\\', 'f']
  else if c = '\r' then ['\\', 'r']
  else if c = '"' then ['\\', '"']
  else if c = '\\' then ['\\', '\\']
  else if isPlain c then [c]
  else ['\\', 'u'] ++ hexDigits c.toNat

/-- Whether three single quotes follow one another. -/
def hasTripleQuote : List Char → Bool
  | [] => false
  | c :: rest => ['\'', '\'', '\''].isPrefixOf (c :: rest) || hasTripleQuote rest

/-- Whether single quotes, or triple ones, can hold a text. -/
def fitsLiteral (text : List Char) : Bool :=
  text.all (fun c => isPlain c || c = '\n') && !hasTripleQuote text &&
    text.getLast? ≠ some '\''

def prefersLiteral (text : List Char) : Bool :=
  (text.contains '\\' || text.contains '"') && fitsLiteral text

def encode (text : List Char) : List Char :=
  let lines := text.contains '\n'
  if prefersLiteral text then
    if lines then ['\'', '\'', '\'', '\n'] ++ text ++ ['\'', '\'', '\'']
    else if text.contains '\'' then ['\'', '\'', '\''] ++ text ++ ['\'', '\'', '\'']
    else '\'' :: text ++ ['\'']
  else if lines then ['"', '"', '"', '\n'] ++ text.flatMap (escape true) ++ ['"', '"', '"']
  else '"' :: text.flatMap (escape false) ++ ['"']

end Text

/-! ### Values -/

def writeKey (key : String) : List Char :=
  let cs := key.toList
  if !cs.isEmpty && cs.all isBare then cs else Text.encode cs

/-- Texts with a separator between them. -/
def separated (separator : List Char) : List (List Char) → List Char
  | [] => []
  | [t] => t
  | t :: rest => t ++ separator ++ separated separator rest

/-- An array: several items stand on lines of their own. -/
def writeItems (items : List (List Char)) : List Char :=
  match items with
  | [] => ['[', ']']
  | [item] => '[' :: item ++ [']']
  | items => '[' :: items.flatMap (fun item => "\n    ".toList ++ item ++ [',']) ++ ['\n', ']']

def writeFloat (x : Float) : List Char :=
  if x.isNaN then "nan".toList
  else
    let text := (Decimal.plain x).toList
    if x.isInf || text.contains '.' then text else text ++ ['.', '0']

mutual

def writeValue : Toml → List Char
  | .string text => Text.encode text.toList
  | .integer n => (toString n).toList
  | .float x => writeFloat x
  | .boolean b => (toString b).toList
  | .moment written => written.toList
  | .array items => writeItems (writeValues items)
  | .table [] => ['\x7b', '\x7d']
  | .table (e :: rest) =>
    ['\x7b', ' '] ++ separated [',', ' '] (writePairs (e :: rest)) ++ [' ', '\x7d']

def writeValues : List Toml → List (List Char)
  | [] => []
  | v :: rest => writeValue v :: writeValues rest

def writePairs : List (String × Toml) → List (List Char)
  | [] => []
  | (key, v) :: rest => (writeKey key ++ " = ".toList ++ writeValue v) :: writePairs rest

end

/-! ### Documents -/

/-- The entries of each table, if a value is an array of tables and not empty. -/
def sections? : Toml → Option (List (List (String × Toml)))
  | .array [] => none
  | .array items => items.mapM fun
    | .table entries => some entries
    | _ => none
  | _ => none

def writeLines (entries : List (String × Toml)) : List Char :=
  (writePairs entries).flatMap (· ++ ['\n'])

def writeSections (key : String) (tables : List (List (String × Toml))) : List Char :=
  tables.flatMap fun entries =>
    "\n[[".toList ++ writeKey key ++ "]]\n".toList ++ writeLines entries

def write (entries : List (String × Toml)) : String :=
  String.ofList
    (writeLines (entries.filter fun e => (sections? e.2).isNone) ++
      entries.flatMap fun e => ((sections? e.2).map (writeSections e.1)).getD [])

end CmsTypings.Toml

import CmsTypings.Toml.Scalar
import CmsTypings.Toml.Text
import CmsTypings.Toml.Tree

/-!
The reading of a TOML document.

A document is a row of statements, each on a line of its own: a header, or a key with its value. A
value may go over several lines. The fuel of the functions is the length of the text, or twice
that where two of them take turns at one character.
-/

namespace CmsTypings.Toml

/-- How deep values may be nested. -/
def depthLimit : Nat := 79

/-- How many keys may be dotted together. -/
def pathLimit : Nat := 79

def skipBlanks (text : List Char) : List Char := text.dropWhile fun c => c = ' ' || c = '\t'

/-- Passes over a comment, from its mark to the end of its line. -/
def skipComment (text : List Char) : Option (List Char) :=
  match text.dropWhile Text.isPlain with
  | [] => some []
  | '\n' :: rest => some ('\n' :: rest)
  | '\r' :: '\n' :: rest => some ('\n' :: rest)
  | _ => none

/-- Passes over blanks, line ends and comments. -/
def skipLines : Nat → List Char → Option (List Char)
  | 0, text => some text
  | fuel + 1, text =>
    match skipBlanks text with
    | '\n' :: rest => skipLines fuel rest
    | '\r' :: '\n' :: rest => skipLines fuel rest
    | '#' :: rest => do skipLines fuel (← skipComment rest)
    | text => some text

/-- The end of a statement: at most a comment, then the end of the line or of the text. -/
def endStatement (text : List Char) : Option (List Char) :=
  match skipBlanks text with
  | [] => some []
  | '\n' :: rest => some rest
  | '\r' :: '\n' :: rest => some rest
  | '#' :: rest => (skipComment rest).map (·.drop 1)
  | _ => none

/-! ### Keys -/

def isBare (c : Char) : Bool := c.isAlphanum || c = '_' || c = '-'

def key? (text : List Char) : Option (String × List Char) :=
  match Text.line? text with
  | some (key, rest) => some (String.ofList key, rest)
  | none =>
    let key := text.takeWhile isBare
    if key.isEmpty then none else some (String.ofList key, text.dropWhile isBare)

/-- A dotted key, with the blanks around it: the path of all keys but the last, and the last. -/
def dottedKey : Nat → List Char → Option ((List String × String) × List Char)
  | 0, _ => none
  | fuel + 1, text => do
    let (key, rest) ← key? (skipBlanks text)
    match skipBlanks rest with
    | '.' :: rest =>
      let ((path, last), rest) ← dottedKey fuel rest
      return ((key :: path, last), rest)
    | rest => return (([], key), rest)

def keyPath (text : List Char) : Option ((List String × String) × List Char) := do
  let ((path, key), rest) ← dottedKey (text.length + 1) text
  if path.length < pathLimit then some ((path, key), rest) else none

/-! ### Values -/

mutual

/-- A value, nested at most as deep as `depth` allows. -/
def value : Nat → Nat → List Char → Option (Toml × List Char)
  | 0, _, _ => none
  | fuel + 1, depth, text =>
    match text with
    | '[' :: rest =>
      match depth with
      | 0 => none
      | depth + 1 => (items fuel depth rest).map fun r => (.array r.1, r.2)
    | '\x7b' :: rest =>
      match depth with
      | 0 => none
      | depth + 1 =>
        match skipBlanks rest with
        | '\x7d' :: rest => some (.table [], rest)
        | rest => (pairs fuel depth [] rest).map fun r => (.table (tableOf r.1), r.2)
    | '"' :: _ | '\'' :: _ => (Text.any? text).map fun r => (.string (String.ofList r.1), r.2)
    | _ => Scalar.any? text

/-- The items of an array, to its closing bracket. -/
def items : Nat → Nat → List Char → Option (List Toml × List Char)
  | 0, _, _ => none
  | fuel + 1, depth, text => do
    match ← skipLines text.length text with
    | ']' :: rest => return ([], rest)
    | text =>
      let (item, rest) ← value fuel depth text
      match ← skipLines rest.length rest with
      | ']' :: rest => return ([item], rest)
      | ',' :: rest =>
        let (more, rest) ← items fuel depth rest
        return (item :: more, rest)
      | _ => none

/-- The pairs of a table written on one line, to its closing brace. -/
def pairs : Nat → Nat → Entries → List Char → Option (Entries × List Char)
  | 0, _, _, _ => none
  | fuel + 1, depth, entries, text => do
    let ((path, key), rest) ← keyPath text
    match rest with
    | '=' :: rest =>
      let (v, rest) ← value fuel depth (skipBlanks rest)
      let entries ← entries.assign path key v .header
      match skipBlanks rest with
      | '\x7d' :: rest => return (entries, rest)
      | ',' :: rest => pairs fuel depth entries rest
      | _ => none
    | _ => none

end

/-! ### Statements -/

inductive Statement where
  | openTable (path : List String) (key : String)
  | addTable (path : List String) (key : String)
  | assign (path : List String) (key : String) (value : Toml)

def statement (text : List Char) : Option (Statement × List Char) :=
  match text with
  | '[' :: '[' :: rest => do
    let ((path, key), rest) ← keyPath rest
    match rest with
    | ']' :: ']' :: rest => return (.addTable path key, rest)
    | _ => none
  | '[' :: rest => do
    let ((path, key), rest) ← keyPath rest
    match rest with
    | ']' :: rest => return (.openTable path key, rest)
    | _ => none
  | _ => do
    let ((path, key), rest) ← keyPath text
    match rest with
    | '=' :: rest =>
      let rest := skipBlanks rest
      let (v, rest) ← value (2 * rest.length + 2) depthLimit rest
      return (.assign path key v, rest)
    | _ => none

def statements : Nat → List Char → Option (List Statement)
  | 0, _ => some []
  | fuel + 1, text => do
    match ← skipLines text.length text with
    | [] => return []
    | text =>
      let (s, rest) ← statement text
      return s :: (← statements fuel (← endStatement rest))

/-- A document that is being built: its entries, and the table that the last header opened. -/
structure Draft where
  root : Entries := []
  path : List String := []

def Draft.add (d : Draft) : Statement → Option Draft
  | .openTable path key => do return ⟨← d.root.openTable path key, path ++ [key]⟩
  | .addTable path key => do return ⟨← d.root.addTable path key, path ++ [key]⟩
  | .assign path key v => do
    return { d with root := ← d.root.within false (fun form es => es.assign path key v form)
                              d.path .header }

/-- A byte order mark is no part of a document. -/
def afterMark : List Char → List Char
  | '\uFEFF' :: rest => rest
  | text => text

/-- The entries of a document; none if the text is not one. -/
def read? (text : String) : Option (List (String × Toml)) := do
  let text := afterMark text.toList
  let d ← (← statements (text.length + 1) text).foldlM Draft.add {}
  return tableOf d.root

end CmsTypings.Toml

import CmsTypings.Decimal.Layout
import CmsTypings.Json.Value
import CmsTypings.Toml.Value

/-!
Values as configuration sources state them, and how one is laid over another.

A table is laid over what is there entry by entry; any other value takes its place. Names do not
distinguish small and capital letters, except in the tables inside lists.
-/

namespace CmsTypings

inductive Setting where
  | nothing
  | boolean (value : Bool)
  | integer (value : Int)
  | float (value : Float)
  | text (text : String)
  | list (items : List Setting)
  | table (entries : List (String × Setting))

namespace Setting

instance : Inhabited Setting := ⟨.nothing⟩

mutual

def ofToml : Toml → Setting
  | .string s => .text s
  | .integer n => .integer n
  | .float x => .float x
  | .boolean b => .boolean b
  | .moment s => .text s
  | .array items => .list (ofTomlItems items)
  | .table entries => .table (ofTomlEntries entries)

def ofTomlItems : List Toml → List Setting
  | [] => []
  | v :: rest => ofToml v :: ofTomlItems rest

def ofTomlEntries : List (String × Toml) → List (String × Setting)
  | [] => []
  | (key, v) :: rest => (key, ofToml v) :: ofTomlEntries rest

end

/-- An integer of more than 63 bits is taken as a float. -/
def ofNumber : Json.Number → Setting
  | .integer n =>
    if n < (Nat.pow 2 63 : Int) then .integer n else .float (Float.ofInt n)
  | .double x => .float x

mutual

def ofJson : Json → Setting
  | .null => .nothing
  | .bool b => .boolean b
  | .number n => ofNumber n
  | .string s => .text s
  | .array items => .list (ofJsonItems items)
  | .object members => .table (ofJsonMembers members)

def ofJsonItems : List Json → List Setting
  | [] => []
  | v :: rest => ofJson v :: ofJsonItems rest

def ofJsonMembers : List (String × Json) → List (String × Setting)
  | [] => []
  | (key, v) :: rest => (key, ofJson v) :: ofJsonMembers rest

end

/-! ### Layers -/

/-- The entries of a table; anything else has none. -/
def entries : Setting → List (String × Setting)
  | .table es => es
  | _ => []

def items : Setting → List Setting
  | .list xs => xs
  | _ => []

def get? (s : Setting) (key : String) : Option Setting :=
  (s.entries.find? fun e => e.1 = key).map Prod.snd

/-- Changes what is under a key, where at first an empty table is. -/
def alterEntry (key : String) (change : Setting → Setting) :
    List (String × Setting) → List (String × Setting)
  | [] => [(key, change (.table []))]
  | e :: rest => if e.1 = key then (key, change e.2) :: rest else e :: alterEntry key change rest

/-- Changes an item of a list, which is made long enough before. -/
def alterItem (change : Setting → Setting) : Nat → List Setting → List Setting
  | 0, [] => [change .nothing]
  | 0, s :: rest => change s :: rest
  | n + 1, [] => .nothing :: alterItem change n []
  | n + 1, s :: rest => s :: alterItem change n rest

mutual

/-- Lays a setting over another one. -/
def overlay (below : Setting) : Setting → Setting
  | .table es => overlayEntries below es
  | s => s

def overlayEntries (below : Setting) : List (String × Setting) → Setting
  | [] => below
  | (key, s) :: rest =>
    overlayEntries (.table (alterEntry key.toLower (fun old => overlay old s) below.entries)) rest

end

/-- A step on the way to a setting. -/
inductive Step where
  | name (name : String)
  | index (index : Nat)
deriving DecidableEq, Repr

/-- Writes a setting at the end of a path. A list's item is replaced. -/
def write (s : Setting) : List Step → Setting → Setting
  | [], below => overlay below s
  | [.index i], below => .list (alterItem (fun _ => s) i below.items)
  | .name n :: path, below => .table (alterEntry n.toLower (write s path) below.entries)
  | .index i :: path, below => .list (alterItem (write s path) i below.items)

/-! ### Paths in keys -/

def isNameChar (c : Char) : Bool := c.isAlphanum || c = '_' || c = '-' || c = ' '

def name? (text : List Char) : Option (String × List Char) :=
  let name := text.takeWhile isNameChar
  if name.isEmpty then none else some (String.ofList name, text.dropWhile isNameChar)

/-- A number in brackets, with blanks around it, after the opening one. -/
def index? (text : List Char) : Option (Nat × List Char) :=
  let isSpace := fun c : Char => c = ' ' || c = '\t'
  let text := text.dropWhile isSpace
  let digits := text.takeWhile Char.isDigit
  match (text.dropWhile Char.isDigit).dropWhile isSpace with
  | ']' :: rest =>
    if digits.isEmpty then none
    else (String.ofList digits).toNat?.map (·, rest)
  | _ => none

def moreSteps : Nat → List Char → Option (List Step)
  | _, [] => some []
  | 0, _ => none
  | fuel + 1, '.' :: rest => do
    let (n, rest) ← name? rest
    return .name n :: (← moreSteps fuel rest)
  | fuel + 1, '[' :: rest => do
    let (i, rest) ← index? rest
    return .index i :: (← moreSteps fuel rest)
  | _, _ => none

/-- The path that a key spells; a key that spells none is a name as it is. -/
def pathOf (key : String) : List Step :=
  match name? key.toList with
  | none => [.name key]
  | some (n, rest) =>
    match moreSteps rest.length rest with
    | none => [.name key]
    | some steps => .name n :: steps

/-- Lays the entries of a source over what earlier sources stated. -/
def layer (below : Setting) (source : List (String × Setting)) : Setting :=
  source.foldl (fun below e => write e.2 (pathOf e.1) below) below

end Setting

end CmsTypings

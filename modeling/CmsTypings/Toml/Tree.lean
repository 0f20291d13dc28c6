import CmsTypings.Toml.Value

/-!
The tables of a document while it is read.

A table comes about by a header, as a step of a dotted key, or as a step on the way to another
header. What may still be added to it depends on this: a key is written once, a header opens a
table once, and dotted keys add only to tables that dotted keys have made.
-/

namespace CmsTypings.Toml

/-- How a table came about. -/
inductive Form where
  | header | dotted | implied
deriving DecidableEq, Repr

/-- What a key stands for. Of an array of tables that headers add to, the last is apart from the
earlier ones, which stand last first. -/
inductive Item where
  | value (value : Toml)
  | table (form : Form) (entries : List (String × Item))
  | tables (last : List (String × Item)) (earlier : List (List (String × Item)))

abbrev Entries := List (String × Item)

namespace Entries

def item? (es : Entries) (key : String) : Option Item := (es.find? fun e => e.1 = key).map Prod.snd

/-- Puts an item in the place of the one under `key`. -/
def replace (es : Entries) (key : String) (item : Item) : Entries :=
  es.map fun e => if e.1 = key then (key, item) else e

/-- Changes the table at the end of a path, and makes the tables missing on the way. A path leads
into the last table of an array. -/
def within (dotted : Bool) (change : Form → Entries → Option Entries) :
    List String → Form → Entries → Option Entries
  | [], form, es => change form es
  | key :: path, _, es =>
    match item? es key with
    | none => do
      let form : Form := if dotted then .dotted else .implied
      return es ++ [(key, .table form (← within dotted change path form []))]
    | some (.value _) => none
    | some (.tables last earlier) => do
      return replace es key (.tables (← within dotted change path .header last) earlier)
    | some (.table form sub) => do
      if dotted && form = .header then none
      else return replace es key (.table form (← within dotted change path form sub))

/-- Writes a value under a dotted key: a path and a last key. -/
def assign (path : List String) (key : String) (v : Toml) (form : Form) (es : Entries) :
    Option Entries :=
  within true (fun form es =>
    if (form = .dotted) = path.isEmpty || (item? es key).isSome then none
    else some (es ++ [(key, .value v)])) path form es

/-- Opens a table. -/
def openTable (path : List String) (key : String) (es : Entries) : Option Entries :=
  within false (fun _ es =>
    match item? es key with
    | none => some (es ++ [(key, .table .header [])])
    | some (.table .implied sub) => some (replace es key (.table .header sub))
    | _ => none) path .header es

/-- Adds a table to an array of tables. -/
def addTable (path : List String) (key : String) (es : Entries) : Option Entries :=
  within false (fun _ es =>
    match item? es key with
    | none => some (es ++ [(key, .tables [] [])])
    | some (.tables last earlier) => some (replace es key (.tables [] (last :: earlier)))
    | _ => none) path .header es

end Entries

mutual

def Item.toToml : Item → Toml
  | .value v => v
  | .table _ es => .table (tableOf es)
  | .tables last earlier => .array (tablesOf earlier [.table (tableOf last)])

def tableOf : List (String × Item) → List (String × Toml)
  | [] => []
  | (key, item) :: rest => (key, item.toToml) :: tableOf rest

def tablesOf : List (List (String × Item)) → List Toml → List Toml
  | [], done => done
  | es :: rest, done => tablesOf rest (.table (tableOf es) :: done)

end

end CmsTypings.Toml

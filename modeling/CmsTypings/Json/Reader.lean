import CmsTypings.Json.Draft

/-!
Reading typed data out of JSON.

A reader takes a draft in the order of the text and stops at the first defect. One description of
a type serves JSON text and JSON values alike; they differ in two points. Text may nest lists and
maps at most 127 deep, counting those that are kept. And a record written as a list with too many
elements is faulted in text where it goes on, in a value by its length.
-/

namespace CmsTypings.Json

/-- Where a draft comes from. In text, `room` more lists or maps may be entered, less one. -/
inductive Source where
  | value
  | text (room : Nat)
deriving DecidableEq, Repr

def Reader (α : Type) := Source → Draft → Except Error α

/-- The nesting that text may not reach. -/
def Source.freshText : Source := .text 128

namespace Reader

variable {α β σ : Type}

def fail (f : Fault) : Except Error α := .error (.fault f)

/-- Enters a list or a map. -/
def enter : Source → Except Error Source
  | .value => .ok .value
  | .text room => if room ≤ 1 then fail .nesting else .ok (.text (room - 1))

/-- What a reader that wanted something else makes of a draft. -/
def mismatch (wanted : String) : Draft → Error
  | .null => .shape .null wanted
  | .bool b => .shape (.bool b) wanted
  | .number (.ok n) => .shape (.number n) wanted
  | .number (.error f) => .fault f
  | .string (.ok s) => .shape (.string s) wanted
  | .string (.error f) => .fault f
  | .array _ _ => .shape .list wanted
  | .object _ _ => .shape .map wanted
  | .broken stop => .fault stop.kept

def closed (stop : Option Stop) : Except Error Unit :=
  match stop with
  | none => .ok ()
  | some s => fail s.kept

def liftFault : Except Fault α → Except Error α
  | .ok a => .ok a
  | .error f => fail f

/-! ### Skipping -/

mutual

/-- Passes over a draft that nobody wants: only its grammar is looked at. -/
def skip : Draft → Except Error Unit
  | .array items stop => do
    skipItems items
    match stop with
    | none => pure ()
    | some s => fail s.skipped
  | .object members stop => do
    skipMembers members
    match stop with
    | none => pure ()
    | some s => fail s.skipped
  | .broken stop => fail stop.skipped
  | .null | .bool _ | .number _ | .string _ => pure ()

def skipItems : List Draft → Except Error Unit
  | [] => pure ()
  | d :: rest => do skip d; skipItems rest

def skipMembers : List (Except Fault String × Draft) → Except Error Unit
  | [] => pure ()
  | (_, d) :: rest => do skip d; skipMembers rest

end

/-! ### Plain data -/

def map (f : α → β) (r : Reader α) : Reader β := fun src d => (r src d).map f

def string : Reader String := fun _ d =>
  match d with
  | .string (.ok s) => .ok s
  | d => .error (mismatch "a string" d)

def bool : Reader Bool := fun _ d =>
  match d with
  | .bool b => .ok b
  | d => .error (mismatch "a boolean" d)

/-- A null is read as absence. -/
def option (r : Reader α) : Reader (Option α) := fun src d =>
  match d with
  | .null => .ok none
  | d => (r src d).map some

def list (r : Reader α) : Reader (List α) := fun src d =>
  match d with
  | .array items stop => do
    let inner ← enter src
    let values ← items.mapM (r inner)
    closed stop
    return values
  | d => .error (mismatch "a sequence" d)

def orderedMap (r : Reader α) : Reader (OrderedMap α) := fun src d =>
  match d with
  | .object members stop => do
    let inner ← enter src
    let entries ← members.mapM fun m => do
      let key ← liftFault m.1
      let value ← r inner m.2
      return (key, value)
    closed stop
    return OrderedMap.ofList entries
  | d => .error (mismatch "a map" d)

mutual

/-- Keeps a value of any shape. -/
def value (src : Source) : Draft → Except Error Json
  | .null => pure .null
  | .bool b => pure (.bool b)
  | .number kept => do return .number (← liftFault kept)
  | .string kept => do return .string (← liftFault kept)
  | .array items stop => do
    let inner ← enter src
    let values ← valueItems inner items
    closed stop
    return .array values
  | .object members stop => do
    let inner ← enter src
    let values ← valueMembers inner members
    closed stop
    return .object (values.foldl (fun ms m => putEntry m.1 m.2 ms) [])
  | .broken stop => fail stop.kept

def valueItems (src : Source) : List Draft → Except Error (List Json)
  | [] => pure []
  | d :: rest => do
    let v ← value src d
    return v :: (← valueItems src rest)

def valueMembers (src : Source) :
    List (Except Fault String × Draft) → Except Error (List (String × Json))
  | [] => pure []
  | (key, d) :: rest => do
    let k ← liftFault key
    let v ← value src d
    return (k, v) :: (← valueMembers src rest)

end

/-! ### Records -/

/-- A field of a record: its name, and how its value changes the record read so far. -/
structure Field (σ : Type) where
  name : String
  read : Reader (σ → σ)

def field (name : String) (r : Reader α) (set : α → σ → σ) : Field σ := ⟨name, r.map set⟩

/-- One member of a record written as a map; `seen` lists the fields read before. -/
def readMember (fields : List (Field σ)) (src : Source) (state : σ × List String)
    (member : Except Fault String × Draft) : Except Error (σ × List String) := do
  let key ← liftFault member.1
  match fields.find? fun f => f.name == key with
  | none => do
    skip member.2
    return state
  | some f => do
    if state.2.contains key then throw (.repeatedField key)
    let update ← f.read src member.2
    return (update state.1, key :: state.2)

/-- The elements of a record written as a list, and how many of them are read. -/
def readInOrder (src : Source) (acc : σ) : List (Field σ) → List Draft → Except Error (σ × Nat)
  | f :: fields, d :: items => do
    let update ← f.read src d
    let (acc, n) ← readInOrder src (update acc) fields items
    return (acc, n + 1)
  | _, _ => return (acc, 0)

/-- How the end of a list is faulted by a reader that expects it to close. -/
def Fault.atClose : Fault → Fault
  | .commaOrBracketExpected | .endOfText => .trailingText
  | f => f

/-- A record is a map of its fields, in any order and with others among them, or a list of its
fields in their order. `blank` is the record without any field. -/
def record (type : String) (blank : σ) (fields : List (Field σ)) : Reader σ := fun src d =>
  match d with
  | .object members stop => do
    let inner ← enter src
    let (acc, _) ← members.foldlM (readMember fields inner) (blank, [])
    closed stop
    return acc
  | .array items stop => do
    let inner ← enter src
    let (acc, n) ← readInOrder inner blank fields items
    if n < items.length then
      match src with
      | .text _ => fail .trailingText
      | .value => throw (.tooLong items.length)
    match stop with
    | none => return acc
    | some s => if n = fields.length then fail (Fault.atClose s.kept) else fail s.kept
  | d => .error (mismatch ("struct " ++ type) d)

/-! ### Running a reader -/

def readText (r : Reader α) (text : String) : Except Error α := do
  let document := Draft.Document.ofText text
  let a ← r .freshText document.root
  if document.overrun then fail .trailingText else return a

def readValue (r : Reader α) (json : Json) : Except Error α := r .value (.ofJson json)

end Reader

/-- Any JSON text, without a limit on its nesting. -/
def parse (text : String) : Except Error Json := do
  let document := Draft.Document.ofText text
  let json ← Reader.value .value document.root
  if document.overrun then Reader.fail .trailingText else return json

end CmsTypings.Json

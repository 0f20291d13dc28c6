import CmsTypings.Json.Token

/-!
JSON text as far as it can be read.

A draft is a JSON value in which a fault may stand for what cannot be read: a scalar that breaks
off, or a list or map that is not closed as it should be. What follows the first fault of the
grammar is not part of the draft. Readers walk a draft in the order of the text, so the first
defect they meet, of grammar or of shape, is the first one in the text. A value is a draft
without faults.
-/

namespace CmsTypings.Json

inductive Draft where
  | null
  | bool (value : Bool)
  | number (kept : Except Fault Number)
  | string (kept : Except Fault String)
  | array (items : List Draft) (stop : Option Stop)
  | object (members : List (Except Fault String × Draft)) (stop : Option Stop)
  | broken (stop : Stop)

instance : Inhabited Draft := ⟨.null⟩

namespace Draft

/-! ### Values as drafts -/

mutual

def ofJson : Json → Draft
  | .null => .null
  | .bool b => .bool b
  | .number n => .number (.ok n)
  | .string s => .string (.ok s)
  | .array items => .array (ofItems items) none
  | .object members => .object (ofMembers members) none

def ofItems : List Json → List Draft
  | [] => []
  | v :: rest => ofJson v :: ofItems rest

def ofMembers : List (String × Json) → List (Except Fault String × Draft)
  | [] => []
  | (name, v) :: rest => (.ok name, ofJson v) :: ofMembers rest

end

/-! ### Text as a draft -/

/-- A list or map still open, with what it holds so far, last first. A `member` frame is a map
that waits for the value of its last key. -/
inductive Frame where
  | list (before : List Draft)
  | map (before : List (Except Fault String × Draft))
  | member (before : List (Except Fault String × Draft)) (key : Except Fault String)

/-- What may come next. -/
inductive Phase where
  | value | firstItem | nextItem | separator | firstKey | nextKey | colon
deriving DecidableEq, Repr

inductive Scan where
  | reading (frames : List Frame) (phase : Phase)
  | complete (root : Draft)
  | overrun (root : Draft)
  | stopped (root : Draft)

/-- A value is complete: it goes into the innermost frame. -/
def deliver (d : Draft) : List Frame → Scan
  | [] => .complete d
  | .list before :: outer => .reading (.list (d :: before) :: outer) .separator
  | .member before key :: outer => .reading (.map ((key, d) :: before) :: outer) .separator
  | .map before :: outer => .reading (.map before :: outer) .separator

/-- Reading ends inside `d`: the frames around it are left as they are. -/
def enclose (d : Draft) : List Frame → Draft
  | [] => d
  | .list before :: outer => enclose (.array (d :: before).reverse none) outer
  | .member before key :: outer => enclose (.object ((key, d) :: before).reverse none) outer
  | .map before :: outer => enclose (.object before.reverse none) outer

/-- Reading ends in the innermost frame, between its elements. -/
def cutOff (stop : Stop) : List Frame → Draft
  | .list before :: outer => enclose (.array before.reverse (some stop)) outer
  | .map before :: outer => enclose (.object before.reverse (some stop)) outer
  | frames => enclose (.broken stop) frames

def breakOff (stop : Stop) (frames : List Frame) : Scan := .stopped (enclose (.broken stop) frames)

/-- A token where a value should begin. -/
def beginValue (frames : List Frame) : Token → Scan
  | .null => deliver .null frames
  | .bool b => deliver (.bool b) frames
  | .number kept => deliver (.number kept) frames
  | .string kept => deliver (.string kept) frames
  | .openList => .reading (.list [] :: frames) .firstItem
  | .openMap => .reading (.map [] :: frames) .firstKey
  | .broken stop | .brokenString stop => breakOff stop frames
  | .closeList | .closeMap | .colon | .comma => breakOff (.both .valueExpected) frames

/-- A token where a key should begin. -/
def beginKey (frames : List Frame) (token : Token) : Scan :=
  match frames, token with
  | .map before :: outer, .string kept => .reading (.member before kept :: outer) .colon
  | .map before :: outer, .brokenString stop =>
    breakOff stop (.member before (.error stop.kept) :: outer)
  | _, _ => .stopped (cutOff (.both .keyExpected) frames)

/-- A token after an element of the innermost frame. -/
def afterElement (frames : List Frame) (token : Token) : Scan :=
  match frames, token with
  | .list before :: outer, .closeList => deliver (.array before.reverse none) outer
  | .list _ :: _, .comma => .reading frames .nextItem
  | .list _ :: _, _ => .stopped (cutOff (.both .commaOrBracketExpected) frames)
  | .map before :: outer, .closeMap => deliver (.object before.reverse none) outer
  | .map _ :: _, .comma => .reading frames .nextKey
  | _, _ => .stopped (cutOff (.both .commaOrBraceExpected) frames)

def step : Scan → Token → Scan
  | .reading frames .value, token => beginValue frames token
  | .reading (.list _ :: outer) .firstItem, .closeList => deliver (.array [] none) outer
  | .reading frames .firstItem, token => beginValue frames token
  | .reading frames .nextItem, .closeList =>
    .stopped (cutOff ⟨.trailingComma, .valueExpected⟩ frames)
  | .reading frames .nextItem, token => beginValue frames token
  | .reading frames .separator, token => afterElement frames token
  | .reading (.map _ :: outer) .firstKey, .closeMap => deliver (.object [] none) outer
  | .reading frames .firstKey, token => beginKey frames token
  | .reading frames .nextKey, .closeMap =>
    .stopped (cutOff ⟨.trailingComma, .keyExpected⟩ frames)
  | .reading frames .nextKey, token => beginKey frames token
  | .reading frames .colon, .colon => .reading frames .value
  | .reading frames .colon, _ => breakOff (.both .colonExpected) frames
  | .complete root, _ => .overrun root
  | .overrun root, _ => .overrun root
  | .stopped root, _ => .stopped root

/-- The fault of a text that ends where `phase` expects more. -/
def endFault : Phase → List Frame → Stop
  | .value, _ | .nextItem, _ => .both .endOfText
  | .firstItem, _ => .both .endInList
  | .separator, .list _ :: _ => .both .endInList
  | .nextKey, _ => ⟨.endOfText, .endInObject⟩
  | .separator, _ | .firstKey, _ | .colon, _ => .both .endInObject

/-- The draft of a text, and whether the text goes on after its value. -/
structure Document where
  root : Draft
  overrun : Bool

def Scan.finish : Scan → Document
  | .reading frames phase =>
    let stop := endFault phase frames
    match phase with
    | .value | .nextItem | .colon => ⟨enclose (.broken stop) frames, false⟩
    | .firstItem | .separator | .firstKey | .nextKey => ⟨cutOff stop frames, false⟩
  | .complete root | .stopped root => ⟨root, false⟩
  | .overrun root => ⟨root, true⟩

def Document.ofText (text : String) : Document :=
  ((tokens text.toList).foldl step (.reading [] .value)).finish

end Draft

end CmsTypings.Json

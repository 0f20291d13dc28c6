import CmsTypings.Pattern.Size
import CmsTypings.Unicode.Folding
import CmsTypings.Unicode.Query

/-!
Patterns out of their written form.

The form is read from left to right by a machine whose frames are the open groups. Flags that are
set inside a group last until the group ends. Every reader of a part returns what is left of the
text; a part takes at least one character, so the length of the text bounds the steps.
-/

namespace CmsTypings.Pattern

open Unicode

/-- Why a text is no pattern. -/
inductive Fault where
  | unclosedGroup | unopenedGroup | emptyFlags | flag | groupName | repeatedName | lookAround
  | nothingToRepeat | repetition
  | escape | backReference | codePoint
  | unclosedClass | classRange | classItem
  | property
  | notUtf8 | needsUnicode
  | tooDeep
  | tooLarge
deriving DecidableEq, Repr

/-- The first line of the report on a fault. -/
def Fault.headline : Fault → String
  | .tooLarge => "Compiled regex exceeds size limit of " ++ toString sizeLimit ++ " bytes."
  | _ => "regex parse error:"

structure Flags where
  caseless : Bool := false
  multiLine : Bool := false
  dotAll : Bool := false
  swapGreed : Bool := false
  crlf : Bool := false
  unicode : Bool := true
  spaced : Bool := false

/-! ### Blanks and characters -/

/-- The text after the line that a comment stands on. -/
def afterLine (text : List Char) : List Char := (text.dropWhile (· ≠ '\n')).drop 1

theorem length_afterLine (text : List Char) : (afterLine text).length ≤ text.length := by
  have h : (text.dropWhile (· ≠ '\n')).length ≤ text.length :=
    (List.dropWhile_sublist _).length_le
  simp only [afterLine, List.length_drop]
  omega

/-- The text without blanks and comments at its head, where these do not count. -/
def skipSpace (flags : Flags) (text : List Char) : List Char :=
  if flags.spaced then
    match text with
    | [] => []
    | c :: rest =>
      if Property.whiteSpace.has c then skipSpace flags rest
      else if c = '#' then skipSpace flags (afterLine rest)
      else c :: rest
  else text
termination_by text.length
decreasing_by
  · simp
  · have := length_afterLine rest
    simp
    omega

/-- The character that decides whether a hyphen stands for itself: a blank does not count, nor
does the sign that begins a comment. -/
def peekPast (flags : Flags) : List Char → (inComment : Bool) → Option Char
  | [], _ => none
  | c :: rest, inComment =>
    if !flags.spaced then some c
    else if Property.whiteSpace.has c then peekPast flags rest inComment
    else if !inComment && c == '#' then peekPast flags rest true
    else some c

def isMeta (c : Char) : Bool := "\\.+*?()|[]\x7b\x7d^$#&-~".toList.contains c

/-- Whether a character that means nothing special may be escaped all the same. -/
def isPunctuation (c : Char) : Bool :=
  c.toNat ≤ 0x7F && !c.isAlphanum && c != '<' && c != '>'

/-- The character of a code point, if it has one. -/
def charOf? (code : Nat) : Option Char :=
  if code.isValidChar then some (Char.ofNat code) else none

/-! ### Escapes -/

/-- What an escape or a plain character stands for. `byte` marks a two-digit code. -/
inductive Atom where
  | char (c : Char) (byte : Bool)
  | perl (kind : Char)
  | property (set : CodeSet) (negated : Bool)
  | edge (edge : Edge)

/-- Hexadecimal digits between braces. -/
def bracedCode (flags : Flags) (digits : List Char) :
    Nat → List Char → Except Fault (Char × List Char)
  | 0, _ => .error .codePoint
  | fuel + 1, text =>
    match skipSpace flags text with
    | '}' :: rest =>
      match charOf? (hexValue digits.reverse) with
      | some c => if digits.isEmpty then .error .codePoint else .ok (c, skipSpace flags rest)
      | none => .error .codePoint
    | c :: rest =>
      if (hexDigit? c).isSome then bracedCode flags (c :: digits) fuel rest
      else .error .codePoint
    | [] => .error .codePoint

/-- A fixed number of hexadecimal digits. -/
def fixedCode (flags : Flags) (digits : List Char) :
    Nat → List Char → Except Fault (Char × List Char)
  | 0, text =>
    match charOf? (hexValue digits.reverse) with
    | some c => .ok (c, text)
    | none => .error .codePoint
  | n + 1, text =>
    match text with
    | c :: rest =>
      if (hexDigit? c).isSome then fixedCode flags (c :: digits) n (skipSpace flags rest)
      else .error .codePoint
    | [] => .error .codePoint

/-- A code point after the letter `x`, `u` or `U`. -/
def readCode (flags : Flags) (letter : Char) (text : List Char) :
    Except Fault (Atom × List Char) :=
  match skipSpace flags text with
  | '{' :: rest => do
    let (c, rest) ← bracedCode flags [] (rest.length + 1) rest
    return (.char c false, rest)
  | text => do
    let count := if letter = 'x' then 2 else if letter = 'u' then 4 else 8
    let (c, rest) ← fixedCode flags [] count text
    return (.char c (letter = 'x'), rest)

/-- A list cut at the first place where `mark` stands. -/
def cutAt? (mark : List Char) : List Char → Option (List Char × List Char)
  | [] => none
  | c :: rest =>
    if mark.isPrefixOf (c :: rest) then some ([], (c :: rest).drop mark.length)
    else (cutAt? mark rest).map fun r => (c :: r.1, r.2)

/-- The set that the words inside `\p` name, and whether they say that it is not meant. -/
def namedSet (name : List Char) : Except Fault (CodeSet × Bool) :=
  let byValue (parts : List Char × List Char) (negated : Bool) :=
    match setWithValue? (String.ofList parts.1) (String.ofList parts.2) with
    | some set => .ok (set, negated)
    | none => .error .property
  match cutAt? ['!', '='] name with
  | some parts => byValue parts true
  | none =>
    match cutAt? [':'] name <|> cutAt? ['='] name with
    | some parts => byValue parts false
    | none =>
      match setNamed? (String.ofList name) with
      | some set => .ok (set, false)
      | none => .error .property

/-- The characters up to a closing brace. -/
def upToBrace (flags : Flags) (name : List Char) :
    Nat → List Char → Except Fault (List Char × List Char)
  | 0, _ => .error .escape
  | fuel + 1, text =>
    match skipSpace flags text with
    | '}' :: rest => .ok (name.reverse, rest)
    | c :: rest => upToBrace flags (c :: name) fuel rest
    | [] => .error .escape

/-- A property after `\p` or `\P`. -/
def readProperty (flags : Flags) (negated : Bool) (text : List Char) :
    Except Fault (Atom × List Char) := do
  let (name, rest) ←
    match skipSpace flags text with
    | '{' :: rest => upToBrace flags [] (rest.length + 1) rest
    | '\\' :: _ => throw .property
    | c :: rest => pure ([c], skipSpace flags rest)
    | [] => throw .escape
  if !flags.unicode then throw .needsUnicode
  let (set, inverted) ← namedSet name
  return (.property set (negated != inverted), rest)

/-- The conditions `\b{start}`, `\b{end}` and their halves; anything else in braces that begins
like a word is a fault, what does not is left to be a repetition. -/
def readWordEdge (flags : Flags) (text : List Char) : Except Fault (Edge × List Char) :=
  let u := flags.unicode
  let isLetter (c : Char) : Bool := c.isAlpha || c == '-'
  let rec name (word : List Char) : Nat → List Char → Except Fault (Edge × List Char)
    | 0, _ => .error .escape
    | fuel + 1, text =>
      match text with
      | [] => .error .escape
      | c :: rest =>
        if isLetter c then name (c :: word) fuel (skipSpace flags rest)
        else if c = '}' then
          match String.ofList word.reverse with
          | "start" => .ok (.wordStart u, rest)
          | "end" => .ok (.wordEnd u, rest)
          | "start-half" => .ok (.wordStartHalf u, rest)
          | "end-half" => .ok (.wordEndHalf u, rest)
          | _ => .error .escape
        else .error .escape
  match text with
  | '{' :: rest =>
    match skipSpace flags rest with
    | [] => .error .escape
    | c :: more => if isLetter c then name [] (rest.length + 1) (c :: more) else .ok (.word u, text)
  | _ => .ok (.word u, text)

/-- What follows a backslash. -/
def readEscape (flags : Flags) (text : List Char) : Except Fault (Atom × List Char) :=
  let u := flags.unicode
  match text with
  | [] => .error .escape
  | c :: rest =>
    if c.isDigit then .error .backReference
    else if c = 'x' ∨ c = 'u' ∨ c = 'U' then readCode flags c rest
    else if c = 'p' ∨ c = 'P' then readProperty flags (c = 'P') rest
    else if "dswDSW".toList.contains c then .ok (.perl c, rest)
    else if isMeta c || isPunctuation c then .ok (.char c false, rest)
    else
      match c with
      | 'a' => .ok (.char '\x07' false, rest)
      | 'f' => .ok (.char '\x0c' false, rest)
      | 't' => .ok (.char '\t' false, rest)
      | 'n' => .ok (.char '\n' false, rest)
      | 'r' => .ok (.char '\r' false, rest)
      | 'v' => .ok (.char '\x0b' false, rest)
      | 'A' => .ok (.edge .textStart, rest)
      | 'z' => .ok (.edge .textEnd, rest)
      | 'B' => .ok (.edge (.notWord u), rest)
      | '<' => .ok (.edge (.wordStart u), rest)
      | '>' => .ok (.edge (.wordEnd u), rest)
      | 'b' => do
        let (e, rest) ← readWordEdge flags rest
        return (.edge e, rest)
      | _ => .error .escape

/-! ### Sets of characters -/

def asciiSpace : CodeSet := ⟨[(0x09, 0x0D), (0x20, 0x20)]⟩

def asciiSets : List (String × CodeSet) :=
  [("alnum", ⟨[(0x30, 0x39), (0x41, 0x5A), (0x61, 0x7A)]⟩),
   ("alpha", ⟨[(0x41, 0x5A), (0x61, 0x7A)]⟩),
   ("ascii", ⟨[(0x00, 0x7F)]⟩),
   ("blank", ⟨[(0x09, 0x09), (0x20, 0x20)]⟩),
   ("cntrl", ⟨[(0x00, 0x1F), (0x7F, 0x7F)]⟩),
   ("digit", ⟨[(0x30, 0x39)]⟩),
   ("graph", ⟨[(0x21, 0x7E)]⟩),
   ("lower", ⟨[(0x61, 0x7A)]⟩),
   ("print", ⟨[(0x20, 0x7E)]⟩),
   ("punct", ⟨[(0x21, 0x2F), (0x3A, 0x40), (0x5B, 0x60), (0x7B, 0x7E)]⟩),
   ("space", asciiSpace),
   ("upper", ⟨[(0x41, 0x5A)]⟩),
   ("word", asciiWordSet),
   ("xdigit", ⟨[(0x30, 0x39), (0x41, 0x46), (0x61, 0x66)]⟩)]

/-- Case variants added and the set inverted, as the flags and `negated` say. Without the Unicode
flag a set is one of bytes, and only ASCII ones are parts of a text. -/
def foldAndNegate (flags : Flags) (negated : Bool) (set : CodeSet) : Except Fault CodeSet :=
  if flags.unicode then
    let folded := if flags.caseless then Folding.closure set else set
    .ok (if negated then folded.compl else folded)
  else
    let folded := if flags.caseless then Folding.asciiClosure set else set
    let result := if negated then folded.compl else folded
    if (result.ranges.all fun r => r.2 ≤ 0x7F) then .ok result else .error .notUtf8

def perlSet (flags : Flags) (kind : Char) : Except Fault CodeSet :=
  let set :=
    match flags.unicode, kind.toLower with
    | true, 'd' => Category.decimalNumber
    | true, 's' => Property.whiteSpace
    | true, _ => wordSet
    | false, 'd' => ⟨[(0x30, 0x39)]⟩
    | false, 's' => asciiSpace
    | false, _ => asciiWordSet
  if kind.isLower then .ok set
  else if flags.unicode then .ok set.compl
  else .error .notUtf8

def propertySet (flags : Flags) (set : CodeSet) (negated : Bool) : Except Fault CodeSet :=
  foldAndNegate flags negated set

/-- A character of a set, in bytes if the Unicode flag is off. -/
def classChar (flags : Flags) (c : Char) (byte : Bool) : Except Fault Nat :=
  if flags.unicode || c.toNat ≤ 0x7F then .ok c.toNat
  else if byte then .error .notUtf8
  else .error .needsUnicode

/-- `[:alpha:]` and its like, with the set's opening bracket read already. -/
def asciiClass? (text : List Char) : Option ((CodeSet × Bool) × List Char) :=
  match text with
  | ':' :: rest =>
    let (negated, rest) :=
      match rest with
      | '^' :: more => (true, more)
      | _ => (false, rest)
    let name := rest.takeWhile (· ≠ ':')
    match rest.dropWhile (· ≠ ':') with
    | ':' :: ']' :: more =>
      (asciiSets.find? fun s => s.1.toList = name).map fun s => ((s.2, negated), more)
    | _ => none
  | _ => none

inductive SetOp where
  | inter | diff | symmDiff
deriving DecidableEq, Repr

/-- A set still open: what its unions hold so far and the operation that waits for them. `count`
and `depth` measure how deep the set's description nests. -/
structure SetFrame where
  negated : Bool
  items : CodeSet
  count : Nat
  depth : Nat
  pending : Option (CodeSet × SetOp)

def SetFrame.add (f : SetFrame) (set : CodeSet) (depth : Nat) : SetFrame :=
  { f with items := f.items.union set, count := f.count + 1, depth := max f.depth depth }

/-- The depth of a union: one more than its items', unless it is a single item. -/
def SetFrame.unionDepth (f : SetFrame) : Nat := if 2 ≤ f.count then f.depth + 1 else f.depth

/-- Applies the operation that waits. -/
def SetFrame.settle (flags : Flags) (f : SetFrame) : CodeSet × Nat :=
  match f.pending with
  | none => (f.items, f.unionDepth)
  | some (left, op) =>
    let fold := fun s =>
      if flags.caseless then
        (if flags.unicode then Folding.closure s else Folding.asciiClosure s)
      else s
    let l := fold left
    let r := fold f.items
    let set :=
      match op with
      | .inter => l.inter r
      | .diff => l.diff r
      | .symmDiff => l.symmDiff r
    (set, f.unionDepth + 1)

def SetFrame.operate (flags : Flags) (f : SetFrame) (op : SetOp) : SetFrame :=
  let (set, depth) := f.settle flags
  ⟨f.negated, .empty, 0, depth, some (set, op)⟩

/-- Opens a set after its bracket: a hyphen, and a closing bracket in the first place, stand for
themselves. -/
def openSet (flags : Flags) (text : List Char) : Except Fault (SetFrame × List Char) :=
  let rec hyphens (f : SetFrame) : Nat → List Char → SetFrame × List Char
    | 0, text => (f, text)
    | fuel + 1, text =>
      match text with
      | '-' :: rest => hyphens (f.add (.single 0x2D) 0) fuel (skipSpace flags rest)
      | _ => (f, text)
  let text := skipSpace flags text
  let (negated, text) :=
    match text with
    | '^' :: rest => (true, skipSpace flags rest)
    | _ => (false, text)
  let (f, text) := hyphens ⟨negated, .empty, 0, 0, none⟩ text.length text
  match text with
  | [] => .error .unclosedClass
  | ']' :: rest =>
    if f.count = 0 then .ok (f.add (.single 0x5D) 0, skipSpace flags rest) else .ok (f, text)
  | _ => .ok (f, text)

/-- A character or an escape in a set. -/
def readSetAtom (flags : Flags) (text : List Char) : Except Fault (Atom × List Char) :=
  match text with
  | '\\' :: rest => readEscape flags rest
  | c :: rest => .ok (.char c false, rest)
  | [] => .error .unclosedClass

/-- The set of one atom. -/
def atomSet (flags : Flags) : Atom → Except Fault CodeSet
  | .char c byte => (classChar flags c byte).map .single
  | .perl kind => perlSet flags kind
  | .property set negated => propertySet flags set negated
  | .edge _ => .error .classItem

/-- One item of a set: an atom or a range of characters. -/
def readSetItem (flags : Flags) (text : List Char) : Except Fault (CodeSet × List Char) := do
  let (first, rest) ← readSetAtom flags text
  let rest := skipSpace flags rest
  match rest with
  | [] => throw .unclosedClass
  | '-' :: more =>
    let next := peekPast flags more false
    if next = some ']' ∨ next = some '-' then return (← atomSet flags first, rest)
    let more := skipSpace flags more
    if more.isEmpty then throw .unclosedClass
    let (last, rest) ← readSetAtom flags more
    match first, last with
    | .char a aByte, .char b bByte =>
      if b < a then throw .classRange
      let lo ← classChar flags a aByte
      let hi ← classChar flags b bByte
      return (.range lo hi, rest)
    | _, _ => throw .classRange
  | _ => return (← atomSet flags first, rest)

/-- Reads a set, whose opening bracket is read already, with its nested sets. The answer is the
set and the depth of its description. -/
def readSet (flags : Flags) :
    Nat → List SetFrame → List Char → Except Fault ((CodeSet × Nat) × List Char)
  | 0, _, _ => .error .unclosedClass
  | _, [], _ => .error .unclosedClass
  | fuel + 1, f :: outer, text =>
    match skipSpace flags text with
    | [] => .error .unclosedClass
    | '[' :: rest =>
      match asciiClass? rest with
      | some ((set, negated), rest) => do
        let set ← foldAndNegate flags negated set
        readSet flags fuel (f.add set 0 :: outer) rest
      | none => do
        let (inner, rest) ← openSet flags rest
        readSet flags fuel (inner :: f :: outer) rest
    | ']' :: rest => do
      let (set, depth) := f.settle flags
      let set ← foldAndNegate flags f.negated set
      match outer with
      | [] => return ((set, depth + 1), rest)
      | g :: outer => readSet flags fuel (g.add set (depth + 1) :: outer) rest
    | '&' :: '&' :: rest => readSet flags fuel (f.operate flags .inter :: outer) rest
    | '-' :: '-' :: rest => readSet flags fuel (f.operate flags .diff :: outer) rest
    | '~' :: '~' :: rest => readSet flags fuel (f.operate flags .symmDiff :: outer) rest
    | text => do
      let (set, rest) ← readSetItem flags text
      readSet flags fuel (f.add set 0 :: outer) rest

/-! ### Repetitions -/

/-- A number between blanks, of at most 32 bits. -/
def readCount (flags : Flags) (text : List Char) : Except Fault (Nat × List Char) :=
  let rec digits (n : Nat) (any : Bool) : Nat → List Char → Except Fault (Nat × List Char)
    | 0, _ => .error .repetition
    | fuel + 1, text =>
      match text with
      | c :: rest =>
        if c.isDigit then
          digits (10 * n + (c.toNat - '0'.toNat)) true fuel (skipSpace flags rest)
        else if any && n < Nat.pow 2 32 then .ok (n, text.dropWhile Property.whiteSpace.has)
        else .error .repetition
      | [] => if any && n < Nat.pow 2 32 then .ok (n, []) else .error .repetition
  let text := text.dropWhile Property.whiteSpace.has
  digits 0 false (text.length + 1) text

/-- The bounds of a repetition after its opening brace, and the text after its closing one. -/
def readBounds (flags : Flags) (text : List Char) :
    Except Fault ((Nat × Option Nat) × List Char) := do
  let (least, rest) ← readCount flags (skipSpace flags text)
  match rest with
  | '}' :: rest => return ((least, some least), rest)
  | ',' :: rest =>
    match skipSpace flags rest with
    | '}' :: rest => return ((least, none), rest)
    | rest =>
      let (most, rest) ← readCount flags rest
      match rest with
      | '}' :: rest =>
        if least ≤ most then return ((least, some most), rest) else throw .repetition
      | _ => throw .repetition
  | _ => throw .repetition

/-! ### Groups -/

def isNameChar (first : Bool) (c : Char) : Bool :=
  c == '_' || Property.alphabetic.has c ||
    (!first && (c == '.' || c == '[' || c == ']' || Category.number.has c))

/-- The name of a group, up to its closing angle bracket. -/
def readName (text : List Char) : Except Fault (String × List Char) :=
  let name := text.takeWhile (· ≠ '>')
  match text.dropWhile (· ≠ '>') with
  | '>' :: rest =>
    match name with
    | [] => .error .groupName
    | c :: cs =>
      if isNameChar true c && cs.all (isNameChar false) then .ok (String.ofList name, rest)
      else .error .groupName
  | _ => .error .groupName

def Flags.set (flags : Flags) (letter : Char) (on : Bool) : Flags :=
  match letter with
  | 'i' => { flags with caseless := on }
  | 'm' => { flags with multiLine := on }
  | 's' => { flags with dotAll := on }
  | 'U' => { flags with swapGreed := on }
  | 'u' => { flags with unicode := on }
  | 'R' => { flags with crlf := on }
  | 'x' => { flags with spaced := on }
  | _ => flags

/-- Flags up to a colon or a closing parenthesis: no letter twice, at most one hyphen, and that
one before a letter. The answer holds the new flags and whether any were written. -/
def readFlags (flags : Flags) (seen : List Char) (on : Bool) :
    List Char → Except Fault ((Flags × Bool) × List Char)
  | [] => .error .flag
  | c :: rest =>
    if c = ':' ∨ c = ')' then
      if seen.head? = some '-' then .error .flag else .ok ((flags, !seen.isEmpty), c :: rest)
    else if seen.contains c then .error .flag
    else if c = '-' then readFlags flags (c :: seen) false rest
    else if "imsUuRx".toList.contains c then readFlags (flags.set c on) (c :: seen) on rest
    else .error .flag

/-! ### The machine -/

/-- A part of a pattern. `depth` counts how deep its description nests; an item that only sets
flags cannot be repeated. -/
structure Item where
  pattern : Pattern
  depth : Nat
  setsFlags : Bool

/-- A group still open: its finished alternatives and the parts of the current one, last first. -/
structure Frame where
  captures : Bool
  outerFlags : Flags
  alternatives : List Item
  items : List Item

def seqAll : List Pattern → Pattern
  | [] => .empty
  | [p] => p
  | p :: rest => .seq p (seqAll rest)

def altAll : List Pattern → Pattern
  | [] => .empty
  | [p] => p
  | p :: rest => .alt p (altAll rest)

def deepest (items : List Item) : Nat := (items.map (·.depth)).foldl max 0

/-- The current alternative as one item. -/
def Frame.sequence (f : Frame) : Item :=
  match f.items with
  | [item] => { item with setsFlags := false }
  | items =>
    let depth := if items.isEmpty then 0 else deepest items + 1
    ⟨seqAll (items.reverse.map (·.pattern)), depth, false⟩

/-- All that a group holds, as one item. -/
def Frame.whole (f : Frame) : Item :=
  match f.alternatives with
  | [] => f.sequence
  | _ :: _ =>
    let all := f.sequence :: f.alternatives
    ⟨altAll (all.reverse.map (·.pattern)), deepest all + 1, false⟩

def Frame.push (f : Frame) (p : Pattern) (depth : Nat) : Frame :=
  { f with items := ⟨p, depth, false⟩ :: f.items }

/-- Repeats the last item. -/
def Frame.repeated (f : Frame) (least : Nat) (most : Option Nat) : Except Fault Frame :=
  match f.items with
  | item :: rest =>
    if item.setsFlags then .error .nothingToRepeat
    else .ok { f with items := ⟨.times item.pattern least most, item.depth + 1, false⟩ :: rest }
  | [] => .error .nothingToRepeat

/-- Passes over the question mark that makes a repetition lazy: where a match occurs does not
depend on it. -/
def skipLazy : List Char → List Char
  | '?' :: rest => rest
  | text => text

/-- A character that stands for itself, in any case if the flags say so. -/
def charPattern (flags : Flags) (c : Char) (byte : Bool) : Except Fault Pattern :=
  if !flags.unicode && byte && 0x7F < c.toNat then .error .notUtf8
  else if !flags.caseless then .ok (.one (.single c.toNat))
  else if flags.unicode then .ok (.one (Folding.closure (.single c.toNat)))
  else .ok (.one (Folding.asciiClosure (.single c.toNat)))

def dotPattern (flags : Flags) : Except Fault Pattern :=
  if !flags.unicode then .error .notUtf8
  else if flags.dotAll then .ok (.one .all)
  else if flags.crlf then .ok (.one (CodeSet.ofRanges [(0x0A, 0x0A), (0x0D, 0x0D)]).compl)
  else .ok (.one (CodeSet.single 0x0A).compl)

def caretEdge (flags : Flags) : Edge :=
  if flags.multiLine then (if flags.crlf then .lineStartCrlf else .lineStart) else .textStart

def dollarEdge (flags : Flags) : Edge :=
  if flags.multiLine then (if flags.crlf then .lineEndCrlf else .lineEnd) else .textEnd

def atomPattern (flags : Flags) : Atom → Except Fault Pattern
  | .char c byte => charPattern flags c byte
  | .perl kind => (perlSet flags kind).map .one
  | .property set negated => (propertySet flags set negated).map .one
  | .edge e => .ok (.edge e)

/-- The machine between two parts of the text. -/
structure Machine where
  flags : Flags
  frame : Frame
  outer : List Frame
  names : List String
  rest : List Char

/-- What an opening parenthesis opens; `text` follows it. -/
def openGroup (m : Machine) (text : List Char) : Except Fault Machine :=
  let opened (captures : Bool) (flags : Flags) (names : List String) (rest : List Char) : Machine :=
    ⟨flags, ⟨captures, m.flags, [], []⟩, m.frame :: m.outer, names, rest⟩
  let nameGroup (text : List Char) : Except Fault Machine := do
    let (name, rest) ← readName text
    if m.names.contains name then throw .repeatedName
    return opened true m.flags (name :: m.names) rest
  match skipSpace m.flags text with
  | '?' :: '=' :: _ | '?' :: '!' :: _ | '?' :: '<' :: '=' :: _ | '?' :: '<' :: '!' :: _ =>
    .error .lookAround
  | '?' :: 'P' :: '<' :: rest => nameGroup rest
  | '?' :: '<' :: rest => nameGroup rest
  | '?' :: rest => do
    let ((flags, any), rest) ← readFlags m.flags [] true rest
    match rest with
    | ':' :: rest => return opened false flags m.names rest
    | rest =>
      if !any then throw .emptyFlags
      let frame := { m.frame with items := ⟨.empty, 0, true⟩ :: m.frame.items }
      return { m with flags := flags, frame := frame, rest := rest.drop 1 }
  | rest => return opened true m.flags m.names rest

def closeGroup (m : Machine) (rest : List Char) : Except Fault Machine :=
  match m.outer with
  | [] => .error .unopenedGroup
  | f :: outer =>
    let item := m.frame.whole
    let frame := f.push (.group m.frame.captures item.pattern) (item.depth + 1)
    .ok ⟨m.frame.outerFlags, frame, outer, m.names, rest⟩

/-- One part of the text; `c` is its first character. -/
def step (m : Machine) (c : Char) (rest : List Char) : Except Fault Machine :=
  let pushed (p : Pattern) (depth : Nat) (rest : List Char) : Machine :=
    { m with frame := m.frame.push p depth, rest := rest }
  let repeated (least : Nat) (most : Option Nat) (rest : List Char) : Except Fault Machine := do
    return { m with frame := ← m.frame.repeated least most, rest := skipLazy rest }
  match c with
  | '(' => openGroup m rest
  | ')' => closeGroup m rest
  | '|' =>
    let f := m.frame
    .ok { m with frame := { f with alternatives := f.sequence :: f.alternatives, items := [] },
                 rest := rest }
  | '[' => do
    let (f, rest) ← openSet m.flags rest
    let ((set, depth), rest) ← readSet m.flags (rest.length + 1) [f] rest
    return pushed (.one set) depth rest
  | '?' => repeated 0 (some 1) rest
  | '*' => repeated 0 none rest
  | '+' => repeated 1 none rest
  | '{' => do
    let ((least, most), rest) ← readBounds m.flags rest
    repeated least most (skipSpace m.flags rest)
  | '\\' => do
    let (atom, rest) ← readEscape m.flags rest
    return pushed (← atomPattern m.flags atom) 0 rest
  | '.' => do return pushed (← dotPattern m.flags) 0 rest
  | '^' => .ok (pushed (.edge (caretEdge m.flags)) 0 rest)
  | '$' => .ok (pushed (.edge (dollarEdge m.flags)) 0 rest)
  | c => do return pushed (← charPattern m.flags c false) 0 rest

/-- Runs the machine to the end of the text. -/
def run : Nat → Machine → Except Fault Item
  | 0, _ => .error .unclosedGroup
  | fuel + 1, m =>
    match skipSpace m.flags m.rest with
    | c :: rest => do run fuel (← step m c rest)
    | [] => if m.outer.isEmpty then .ok m.frame.whole else .error .unclosedGroup

/-- The greatest depth that a description may have. -/
def depthLimit : Nat := 250

/-- Reads a pattern from its written form. -/
def ofText (text : String) : Except Fault Pattern := do
  let cs := text.toList
  let item ← run (cs.length + 1) ⟨{}, ⟨false, {}, [], []⟩, [], [], cs⟩
  if depthLimit < item.depth then throw .tooDeep
  if item.pattern.isTooLarge then throw .tooLarge
  return item.pattern

end CmsTypings.Pattern

import CmsTypings.Unicode.Category
import CmsTypings.Unicode.Property

/-!
Patterns, and where they occur in a text.

A pattern is matched by marks: one Boolean per position of the text, before each character and
after the last. `reach` takes the positions where a match may begin to those where one may end, so
every operator of a pattern is an operator on marks, and a pattern occurs in a text when some
position is reached from all of them. A repetition needs at most one round more than the text has
positions: by then either nothing is marked or nothing new is.
-/

namespace CmsTypings

open Unicode

/-- Conditions on the place between two characters. -/
inductive Pattern.Edge where
  | textStart | textEnd
  | lineStart | lineEnd
  | lineStartCrlf | lineEndCrlf
  | word (unicode : Bool) | notWord (unicode : Bool)
  | wordStart (unicode : Bool) | wordEnd (unicode : Bool)
  | wordStartHalf (unicode : Bool) | wordEndHalf (unicode : Bool)
deriving DecidableEq, Repr

inductive Pattern where
  | empty
  | one (set : CodeSet)
  | edge (edge : Pattern.Edge)
  | group (captures : Bool) (body : Pattern)
  | seq (first second : Pattern)
  | alt (left right : Pattern)
  | times (body : Pattern) (least : Nat) (most : Option Nat)

namespace Pattern

instance : Inhabited Pattern := ⟨.empty⟩

/-- The characters that words are made of. -/
def wordSet : CodeSet :=
  .unions [Property.alphabetic, Category.mark, Category.decimalNumber,
    Category.connectorPunctuation, Property.joinControl]

def asciiWordSet : CodeSet := ⟨[(0x30, 0x39), (0x41, 0x5A), (0x5F, 0x5F), (0x61, 0x7A)]⟩

/-- The characters on both sides of a position. -/
structure Place where
  before : Option Char
  after : Option Char

/-- All places of a text, in order. -/
def places (before : Option Char) : List Char → List Place
  | [] => [⟨before, none⟩]
  | c :: rest => ⟨before, some c⟩ :: places (some c) rest

def isWord (unicode : Bool) (c : Option Char) : Bool :=
  c.any (if unicode then wordSet else asciiWordSet).has

/-- Whether the condition holds at a place. -/
def Edge.holds (p : Place) : Edge → Bool
  | .textStart => p.before.isNone
  | .textEnd => p.after.isNone
  | .lineStart => p.before.isNone || p.before == some '\n'
  | .lineEnd => p.after.isNone || p.after == some '\n'
  | .lineStartCrlf =>
    p.before.isNone || p.before == some '\n' || (p.before == some '\r' && p.after != some '\n')
  | .lineEndCrlf =>
    p.after.isNone || p.after == some '\r' || (p.after == some '\n' && p.before != some '\r')
  | .word u => isWord u p.before != isWord u p.after
  | .notWord u => isWord u p.before == isWord u p.after
  | .wordStart u => !isWord u p.before && isWord u p.after
  | .wordEnd u => isWord u p.before && !isWord u p.after
  | .wordStartHalf u => !isWord u p.before
  | .wordEndHalf u => !isWord u p.after

/-- One mark per position of a text. -/
abbrev Marks := List Bool

def join (a b : Marks) : Marks := List.zipWith (· || ·) a b

/-- The marks moved over one character of `set`. -/
def advance (set : CodeSet) (text : List Char) (marks : Marks) : Marks :=
  false :: List.zipWith (fun m c => m && set.has c) marks text

/-- `step` applied `n` times. -/
def rounds (step : Marks → Marks) : Nat → Marks → Marks
  | 0, marks => marks
  | n + 1, marks => rounds step n (step marks)

/-- What is marked after at most `n` rounds of `step`. -/
def upTo (step : Marks → Marks) : Nat → Marks → Marks
  | 0, marks => marks
  | n + 1, marks =>
    let next := join marks (step marks)
    if next = marks then marks else upTo step n next

/-- The positions where a match that begins at a marked position may end. -/
def reach (text : List Char) (spots : List Place) : Pattern → Marks → Marks
  | .empty, marks => marks
  | .one set, marks => advance set text marks
  | .edge e, marks => List.zipWith (fun m p => m && e.holds p) marks spots
  | .group _ body, marks => reach text spots body marks
  | .seq a b, marks => reach text spots b (reach text spots a marks)
  | .alt a b, marks => join (reach text spots a marks) (reach text spots b marks)
  | .times body least most, marks =>
    let step := reach text spots body
    let bound := text.length + 2
    let begun := rounds step (min least bound) marks
    match most with
    | none => upTo step bound begun
    | some n => upTo step (min (n - least) bound) begun

/-- Whether the pattern occurs anywhere in the text. -/
def occursIn (p : Pattern) (text : String) : Bool :=
  let cs := text.toList
  (reach cs (places none cs) p (List.replicate (cs.length + 1) true)).any id

end Pattern

end CmsTypings

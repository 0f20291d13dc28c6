import CmsTypings.Log
import CmsTypings.Pattern.Basic

/-!
Which notes an operator wants to see.

A filter is written as rules with commas between them. A rule names a level, or a topic with a
level or without one; it decides on the notes whose topic begins as it says, unless another rule
says more of that topic.
-/

namespace CmsTypings.Log

/-- How much is shown: nothing, or all notes down to a level. -/
inductive Depth where
  | none
  | downTo (level : Level)
deriving DecidableEq, Repr

def Depth.shows : Depth → Level → Bool
  | .none, _ => false
  | .downTo least, level => least.rank ≤ level.rank

def Depth.ofText? (text : String) : Option Depth :=
  match text.toLower with
  | "off" | "0" => some .none
  | "error" | "1" => some (.downTo .error)
  | "warn" | "2" => some (.downTo .warn)
  | "info" | "3" => some (.downTo .info)
  | "debug" | "4" => some (.downTo .debug)
  | "trace" | "5" => some (.downTo .trace)
  | _ => Option.none

/-- A rule for the topics that begin with a text. -/
structure Rule where
  topic : String
  depth : Depth
deriving DecidableEq, Repr

structure Filter where
  rules : List Rule
deriving DecidableEq, Repr

namespace Filter

/-- The topic under which all of the program's topics stand. -/
def programTopic : String := "schemas_to_ts"

def fullTopic (topic : List String) : String := "::".intercalate (programTopic :: topic)

def ofDepth (depth : Depth) : Filter := ⟨[⟨"", depth⟩]⟩

/-- Of two rules, the one with the longer topic says more; of two equally long, the greater. -/
def saysMore (a b : Rule) : Bool :=
  b.topic.utf8ByteSize < a.topic.utf8ByteSize ||
    (b.topic.utf8ByteSize = a.topic.utf8ByteSize && !(decide (a.topic < b.topic)))

def decisive? (f : Filter) (topic : String) : Option Rule :=
  (f.rules.filter fun r => r.topic.toList.isPrefixOf topic.toList).foldl
    (fun best r =>
      match best with
      | none => some r
      | some b => if saysMore r b then some r else some b) none

def shows (f : Filter) (note : Note) : Bool :=
  match f.decisive? (fullTopic note.topic) with
  | some r => r.depth.shows note.level
  | none => false

/-! ### Reading -/

def isTopicChar (c : Char) : Bool := c = ':' || c = '-' || Pattern.isWord true (some c)

/-- A topic, and whether a part of it stands in brackets, where the names of spans are. -/
def topic? (text : List Char) : Option (String × Bool) :=
  let front := text.takeWhile (· ≠ '[')
  if front.length = text.length then
    if !text.isEmpty && text.all isTopicChar then some (String.ofList text, false) else none
  else
    let rest := text.drop (front.length + 1)
    let behind := (rest.dropWhile (· ≠ ']')).drop 1
    let closes := rest.contains ']'
    if closes && (front ++ behind).all isTopicChar && (front.isEmpty || behind.isEmpty) then
      some (String.ofList (front ++ behind), true)
    else none

/-- A rule; none is made for the names of spans, since no note stands inside one. -/
def rule? (text : String) : Option (Option Rule) :=
  match Depth.ofText? text with
  | some depth => some (some ⟨"", depth⟩)
  | none => do
    let cs := text.toList
    let front := cs.takeWhile (· ≠ '=')
    let (topic, inSpan) ← topic? front
    let level := String.ofList (cs.drop (front.length + 1))
    let depth ← if level.isEmpty then some (Depth.downTo .trace) else Depth.ofText? level
    return if inSpan then none else some ⟨topic, depth⟩

/-- The filter that a text describes. An empty text asks for errors alone. -/
def ofText? (text : String) : Option Filter := do
  let written := (text.splitOn ",").filter fun r => !r.isEmpty
  if written.isEmpty then return ofDepth (.downTo .error)
  return ⟨(← written.mapM rule?).filterMap id⟩

end Filter

end CmsTypings.Log

/-!
Lines, edit scripts, and the report on how one text differs from another.

A line ends at its first line break and keeps it: a line feed, a carriage return, or both in this
order. A script walks through the lines of the old text and of the new one together: a kept line
belongs to both. The report shows what is removed and what is added, each on a line of its own.
-/

namespace CmsTypings.Drift

/-- The lines of a text, each with its break; their concatenation is the text. -/
def lineChars : List Char → List (List Char)
  | [] => []
  | '\r' :: '\n' :: rest => ['\r', '\n'] :: lineChars rest
  | c :: rest =>
    if c = '\n' ∨ c = '\r' then [c] :: lineChars rest
    else
      match lineChars rest with
      | [] => [[c]]
      | l :: ls => (c :: l) :: ls

def lines (text : String) : List String := (lineChars text.toList).map String.ofList

theorem flatten_lineChars (text : List Char) : (lineChars text).flatten = text := by
  fun_induction lineChars text with
  | case1 => rfl
  | case2 rest ih => simp [ih]
  | case3 c rest _ _ ih => simp [ih]
  | case4 c rest _ _ h ih => simp_all
  | case5 c rest _ _ l ls h ih => simp_all

inductive Change where
  | keep | remove | add
deriving DecidableEq, Repr

/-- A line and what becomes of it. -/
structure Edit where
  change : Change
  line : String
deriving DecidableEq, Repr

abbrev Script := List Edit

namespace Script

/-- The lines of the text that a script starts from. -/
def source (s : Script) : List String := (s.filter fun e => e.change ≠ .add).map (·.line)

/-- The lines of the text that a script leads to. -/
def target (s : Script) : List String := (s.filter fun e => e.change ≠ .remove).map (·.line)

end Script

def endsInNewline (line : String) : Bool := line.toList.getLast? = some '\n'

/-- A line with a line feed at its end. -/
def closed (line : String) : String := if endsInNewline line then line else line ++ "\n"

def Edit.report (e : Edit) : String :=
  match e.change with
  | .keep => ""
  | .remove => "-" ++ closed e.line
  | .add => "+" ++ closed e.line

/-- The changes of a script, in their order. -/
def Script.report (s : Script) : String := String.join (s.map Edit.report)

end CmsTypings.Drift

/-!
Sets of code points, kept as ascending ranges.

A set is written down by its runs: the lengths of the stretches outside it and inside it, in
turn, from code point 0 on, as hexadecimal words. `ofRuns` reads that form; union and complement
are the two operations the others are made of.
-/

namespace CmsTypings.Unicode

/-- The greatest code point. -/
def lastCode : Nat := 0x10FFFF

structure CodeSet where
  ranges : List (Nat × Nat)
deriving DecidableEq, Repr, Inhabited

/-- The value of a hexadecimal digit. -/
def hexDigit? (c : Char) : Option Nat :=
  if '0' ≤ c ∧ c ≤ '9' then some (c.toNat - '0'.toNat)
  else if 'a' ≤ c ∧ c ≤ 'f' then some (c.toNat - 'a'.toNat + 10)
  else if 'A' ≤ c ∧ c ≤ 'F' then some (c.toNat - 'A'.toNat + 10)
  else none

/-- The number that hexadecimal digits spell. -/
def hexValue (digits : List Char) : Nat :=
  digits.foldl (fun n c => 16 * n + (hexDigit? c).getD 0) 0

/-- The words of a line, with one blank between each two. -/
def splitBlanks : List Char → List (List Char)
  | [] => [[]]
  | c :: rest =>
    if c = ' ' then [] :: splitBlanks rest
    else
      match splitBlanks rest with
      | [] => [[c]]
      | w :: ws => (c :: w) :: ws

/-- The words of a line of a table, as numbers. -/
def hexWords (line : String) : List Nat := (splitBlanks line.toList).map hexValue

namespace CodeSet

def empty : CodeSet := ⟨[]⟩

def all : CodeSet := ⟨[(0, lastCode)]⟩

def single (code : Nat) : CodeSet := ⟨[(code, code)]⟩

def range (lo hi : Nat) : CodeSet := ⟨[(lo, hi)]⟩

def contains (s : CodeSet) (code : Nat) : Bool :=
  s.ranges.any fun r => r.1 ≤ code && code ≤ r.2

def isEmpty (s : CodeSet) : Bool := s.ranges.isEmpty

/-- Runs read from position `pos`: outside, inside, outside, inside, and so on. -/
def rangesOfRuns (pos : Nat) : List Nat → List (Nat × Nat)
  | gap :: len :: rest => (pos + gap, pos + gap + len - 1) :: rangesOfRuns (pos + gap + len) rest
  | _ => []

def ofRuns (lines : List String) : CodeSet := ⟨rangesOfRuns 0 (lines.flatMap hexWords)⟩

/-- Joins ranges that touch, of a list ascending by lower ends. -/
def join : List (Nat × Nat) → List (Nat × Nat)
  | [] => []
  | [r] => [r]
  | (a, b) :: (c, d) :: rest =>
    if c ≤ b + 1 then join ((a, max b d) :: rest) else (a, b) :: join ((c, d) :: rest)
termination_by l => l.length

def ofRanges (ranges : List (Nat × Nat)) : CodeSet :=
  ⟨join (ranges.mergeSort fun r s => r.1 ≤ s.1)⟩

def union (s t : CodeSet) : CodeSet := ofRanges (s.ranges ++ t.ranges)

def unions (sets : List CodeSet) : CodeSet := ofRanges (sets.flatMap ranges)

/-- The gaps between ascending ranges, from `pos` to the last code point. -/
def gaps (pos : Nat) : List (Nat × Nat) → List (Nat × Nat)
  | [] => if pos ≤ lastCode then [(pos, lastCode)] else []
  | (a, b) :: rest => if pos < a then (pos, a - 1) :: gaps (b + 1) rest else gaps (b + 1) rest

def compl (s : CodeSet) : CodeSet := ⟨gaps 0 s.ranges⟩

def inter (s t : CodeSet) : CodeSet := (s.compl.union t.compl).compl

def diff (s t : CodeSet) : CodeSet := s.inter t.compl

def symmDiff (s t : CodeSet) : CodeSet := (s.union t).diff (s.inter t)

/-- The number of code points in the set. -/
def size (s : CodeSet) : Nat := s.ranges.foldl (fun n r => n + (r.2 + 1 - r.1)) 0

@[simp] theorem not_contains_empty (code : Nat) : empty.contains code = false := rfl

theorem contains_single (c code : Nat) : (single c).contains code = (c == code) := by
  simp only [single, contains, List.any_cons, List.any_nil, Bool.or_false]
  rw [Bool.eq_iff_iff]
  simp
  omega

end CodeSet

/-- Whether a character is in the set. -/
def CodeSet.has (s : CodeSet) (c : Char) : Bool := s.contains c.toNat

end CmsTypings.Unicode

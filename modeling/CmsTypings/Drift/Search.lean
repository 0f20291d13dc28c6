import CmsTypings.Drift.Script

/-!
A shortest edit script, by the middle of an optimal path.

The lines of two texts span a grid; an edit script is a path through it, a kept line a diagonal
step. Two searches, from either corner, go on by one removed or added line at a time and as far as
they can diagonally; where they first meet, an optimal path passes, and both halves are searched
in turn. What two texts have in common at their ends is set aside before.
-/

namespace CmsTypings.Drift

/-- A stretch of lines of one kind. `old` and `new` are where it begins in the two texts; a
stretch of removed lines has no lines in the new text, one of added lines none in the old. -/
structure Stretch where
  change : Change
  old : Nat
  new : Nat
  size : Nat
deriving DecidableEq, Repr

namespace Stretch

def oldSize (s : Stretch) : Nat := if s.change = .add then 0 else s.size

def newSize (s : Stretch) : Nat := if s.change = .remove then 0 else s.size

def oldEnd (s : Stretch) : Nat := s.old + s.oldSize

def newEnd (s : Stretch) : Nat := s.new + s.newSize

end Stretch

/-- A part of the grid: lines `oldLo` to `oldHi` of the old text and `newLo` to `newHi` of the new
one, the upper ends left out. -/
structure Box where
  oldLo : Nat
  oldHi : Nat
  newLo : Nat
  newHi : Nat

namespace Search

variable (old new : Array String)

/-- The number of lines that the texts have in common from two places on, at most `limit`. -/
def commonFrom (i j : Nat) : Nat → Nat
  | 0 => 0
  | limit + 1 =>
    match old[i]?, new[j]? with
    | some a, some b => if a = b then commonFrom (i + 1) (j + 1) limit + 1 else 0
    | _, _ => 0

/-- The number of lines that the texts have in common before two places, at most `limit`. -/
def commonBefore (i j : Nat) : Nat → Nat
  | 0 => 0
  | limit + 1 =>
    if i = 0 ∨ j = 0 then 0
    else
      match old[i - 1]?, new[j - 1]? with
      | some a, some b => if a = b then commonBefore (i - 1) (j - 1) limit + 1 else 0
      | _, _ => 0

/-- How far a search has come on each diagonal; the diagonals are numbered from `-centre`. -/
structure Frontier where
  reached : Array Nat
  centre : Nat

namespace Frontier

def start (size : Nat) : Frontier := ⟨Array.replicate (2 * size + 3) 0, size + 1⟩

def get (f : Frontier) (k : Int) : Nat := f.reached.getD (k + f.centre).toNat 0

def set (f : Frontier) (k : Int) (x : Nat) : Frontier :=
  { f with reached := f.reached.setIfInBounds (k + f.centre).toNat x }

/-- Where the search stands on diagonal `k` in round `d`, before it goes on diagonally. -/
def enter (f : Frontier) (d : Nat) (k : Int) : Nat :=
  if k = -d ∨ (k ≠ d ∧ f.get (k - 1) < f.get (k + 1)) then f.get (k + 1) else f.get (k - 1) + 1

end Frontier

/-- The diagonals of round `d`, from the uppermost to the lowest. -/
def diagonals (d : Nat) : List Int :=
  (List.range (d + 1)).map fun (i : Nat) => (d : Int) - 2 * (i : Int)

/-- A round of the search from the near corner; it ends where it meets the other search. -/
def forwards (b : Box) (d : Nat) (other : Frontier) :
    List Int → Frontier → Frontier × Option (Nat × Nat)
  | [], f => (f, none)
  | k :: ks, f =>
    let n := b.oldHi - b.oldLo
    let m := b.newHi - b.newLo
    let delta : Int := n - m
    let x := f.enter d k
    let y : Int := x - k
    let run :=
      if x < n ∧ 0 ≤ y ∧ y < m then
        commonFrom old new (b.oldLo + x) (b.newLo + y.toNat) (min (n - x) (m - y.toNat))
      else 0
    let f := f.set k (x + run)
    if delta % 2 ≠ 0 ∧ (k - delta).natAbs + 1 ≤ d ∧ n ≤ x + run + other.get (delta - k) then
      (f, some (b.oldLo + x, b.newLo + y.toNat))
    else forwards b d other ks f

/-- A round of the search from the far corner. -/
def backwards (b : Box) (d : Nat) (other : Frontier) :
    List Int → Frontier → Frontier × Option (Nat × Nat)
  | [], f => (f, none)
  | k :: ks, f =>
    let n := b.oldHi - b.oldLo
    let m := b.newHi - b.newLo
    let delta : Int := n - m
    let x := f.enter d k
    let y : Int := x - k
    let run :=
      if x < n ∧ 0 ≤ y ∧ y < m then
        commonBefore old new (b.oldHi - x) (b.newHi - y.toNat) (min (n - x) (m - y.toNat))
      else 0
    let x := x + run
    let y := y + run
    let f := f.set k x
    if delta % 2 = 0 ∧ (k - delta).natAbs ≤ d ∧ n ≤ x + other.get (delta - k) then
      (f, some (b.oldHi - x, b.newHi - y.toNat))
    else backwards b d other ks f

/-- Rounds of both searches until they meet. -/
def meet (b : Box) (d : Nat) (near far : Frontier) : Nat → Option (Nat × Nat)
  | 0 => none
  | rounds + 1 =>
    match forwards old new b d far (diagonals d) near with
    | (_, some p) => some p
    | (near, none) =>
      match backwards old new b d near (diagonals d) far with
      | (_, some p) => some p
      | (far, none) => meet b (d + 1) near far rounds

/-- A place that an optimal path passes. -/
def middle (b : Box) : Option (Nat × Nat) :=
  let size := (b.oldHi - b.oldLo + (b.newHi - b.newLo) + 1) / 2 + 1
  meet old new b 0 (.start size) (.start size) size

def stretch (change : Change) (old new size : Nat) : List Stretch :=
  if size = 0 then [] else [⟨change, old, new, size⟩]

/-- The stretches of a box. `fuel` bounds the depth of the halving. -/
def path (b : Box) : Nat → List Stretch
  | 0 =>
    stretch .remove b.oldLo b.newLo (b.oldHi - b.oldLo) ++
      stretch .add b.oldHi b.newLo (b.newHi - b.newLo)
  | fuel + 1 =>
    let before :=
      commonFrom old new b.oldLo b.newLo (min (b.oldHi - b.oldLo) (b.newHi - b.newLo))
    let oldLo := b.oldLo + before
    let newLo := b.newLo + before
    let after := commonBefore old new b.oldHi b.newHi (min (b.oldHi - oldLo) (b.newHi - newLo))
    let oldHi := b.oldHi - after
    let newHi := b.newHi - after
    let inner :=
      if newLo = newHi then stretch .remove oldLo newLo (oldHi - oldLo)
      else if oldLo = oldHi then stretch .add oldLo newLo (newHi - newLo)
      else
        match middle old new ⟨oldLo, oldHi, newLo, newHi⟩ with
        | some (i, j) => path ⟨oldLo, i, newLo, j⟩ fuel ++ path ⟨i, oldHi, j, newHi⟩ fuel
        | none =>
          stretch .remove oldLo newLo (oldHi - oldLo) ++ stretch .add oldLo newLo (newHi - newLo)
    stretch .keep b.oldLo b.newLo before ++ inner ++ stretch .keep oldHi newHi after

/-! ### Compaction -/

/-- A walk along the stretches: those before the current one, nearest first, and those after. -/
structure Walk where
  before : List Stretch
  here : Stretch
  after : List Stretch

/-- Adds kept lines in front of what follows: the stretch there grows if it is one of kept lines. -/
def keepInFront (old new size : Nat) : List Stretch → List Stretch
  | s :: rest =>
    if s.change = .keep then ⟨.keep, s.old - size, s.new - size, s.size + size⟩ :: rest
    else ⟨.keep, old, new, size⟩ :: s :: rest
  | [] => [⟨.keep, old, new, size⟩]

/-- Adds kept lines behind what precedes, nearest first. -/
def keepBehind (old new size : Nat) : List Stretch → List Stretch
  | s :: rest =>
    if s.change = .keep then { s with size := s.size + size } :: rest
    else ⟨.keep, old, new, size⟩ :: s :: rest
  | [] => [⟨.keep, old, new, size⟩]

def dropIfEmpty (s : Stretch) (rest : List Stretch) : List Stretch :=
  if s.size = 0 then rest else s :: rest

/-- Moves added lines up over kept lines that equal their end, and any stretch up to the nearest
one of its kind, into which it goes. -/
def moveUp : Nat → Walk → Walk
  | 0, w => w
  | fuel + 1, w =>
    match w.before with
    | [] => w
    | p :: rest =>
      let s := w.here
      if p.change = .keep then
        let n :=
          if s.change = .add then commonBefore old new p.oldEnd s.newEnd (min p.size s.size) else 0
        if 0 < n then
          moveUp fuel
            ⟨dropIfEmpty { p with size := p.size - n } rest,
             { s with old := s.old - n, new := s.new - n },
             keepInFront (p.oldEnd - n) (s.newEnd - n) n w.after⟩
        else if p.size = 0 then moveUp fuel { w with before := rest }
        else w
      else if p.change = s.change then
        moveUp fuel { w with before := rest, here := { p with size := p.size + s.size } }
      else moveUp fuel ⟨rest, s, p :: w.after⟩

/-- Moves added lines down over kept lines that equal their beginning, and any stretch down to the
nearest one of its kind, which goes into it. -/
def moveDown : Nat → Walk → Walk
  | 0, w => w
  | fuel + 1, w =>
    match w.after with
    | [] => w
    | q :: rest =>
      let s := w.here
      if q.change = .keep then
        let n :=
          if s.change = .add then commonFrom old new q.old s.new (min q.size s.size) else 0
        if 0 < n then
          moveDown fuel
            ⟨keepBehind q.old s.new n w.before,
             { s with old := s.old + n, new := s.new + n },
             dropIfEmpty { q with old := q.old + n, new := q.new + n, size := q.size - n } rest⟩
        else if q.size = 0 then moveDown fuel { w with after := rest }
        else w
      else if q.change = s.change then
        moveDown fuel { w with here := { s with size := s.size + q.size }, after := rest }
      else moveDown fuel ⟨q :: w.before, s, rest⟩

/-- Goes along the stretches from `before` on and moves those of kind `change`. -/
def compactKind (change : Change) (fuel : Nat) (before : List Stretch) :
    Nat → List Stretch → List Stretch
  | 0, after => before.reverse ++ after
  | _, [] => before.reverse
  | steps + 1, s :: after =>
    if s.change = change then
      let w := moveDown old new fuel (moveUp old new fuel ⟨before, s, after⟩)
      compactKind change fuel (w.here :: w.before) steps w.after
    else compactKind change fuel (s :: before) steps after

/-- Removed lines are moved first, then added ones. -/
def compact (stretches : List Stretch) : List Stretch :=
  let fuel := 4 * (old.size + new.size + stretches.length) + 8
  let steps := fuel * fuel
  compactKind old new .add fuel [] steps (compactKind old new .remove fuel [] steps stretches)

/-! ### The script -/

def linesAt (text : Array String) (from' size : Nat) : List String :=
  (text.extract from' (from' + size)).toList

def flush (removed added : List String) : Script :=
  removed.map (⟨.remove, ·⟩) ++ added.map (⟨.add, ·⟩)

/-- The script of a row of stretches: between two kept lines, removed lines come before added
ones. -/
def scriptOf (removed added : List String) : List Stretch → Script
  | [] => flush removed added
  | s :: rest =>
    match s.change with
    | .keep =>
      flush removed added ++ (linesAt old s.old s.size).map (⟨.keep, ·⟩) ++ scriptOf [] [] rest
    | .remove => scriptOf (removed ++ linesAt old s.old s.size) added rest
    | .add => scriptOf removed (added ++ linesAt new s.new s.size) rest

end Search

/-- The shortest script that the search finds. -/
def found (source target : String) : Script :=
  let old := (lines source).toArray
  let new := (lines target).toArray
  let stretches := Search.path old new ⟨0, old.size, 0, new.size⟩ (old.size + new.size + 1)
  Search.scriptOf old new [] [] (Search.compact old new stretches)

/-- The script that removes one text and adds another. -/
def exchange (source target : String) : Script :=
  (lines source).map (⟨.remove, ·⟩) ++ (lines target).map (⟨.add, ·⟩)

/-- A script from one text to another. What the search finds counts only if it leads there. -/
def script (source target : String) : Script :=
  let s := found source target
  if s.source = lines source ∧ s.target = lines target then s else exchange source target

/-- The report on how `target` differs from `source`; none if they are equal. -/
def report? (source target : String) : Option String :=
  if source = target then none else some (script source target).report

end CmsTypings.Drift

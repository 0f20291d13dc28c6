import CmsTypings.Pattern.Basic

/-!
The size of a pattern as an automaton over bytes.

A pattern is refused when its automaton, read forwards or backwards, would take more than ten
mebibytes. A state takes 32 bytes, each of its byte ranges 8 and each of its alternatives 4. A set
of characters becomes a small automaton of its own: forwards the least one, in which equal ends
are shared, backwards a tree in which equal beginnings are shared.
-/

namespace CmsTypings.Pattern

open Unicode

/-- A range of bytes. -/
abbrev ByteRange := Nat × Nat

/-- The greatest code point that is written in `n` bytes. -/
def lastOfLength : Nat → Nat
  | 1 => 0x7F
  | 2 => 0x7FF
  | 3 => 0xFFFF
  | _ => 0x10FFFF

/-- The bytes of a code point written in `n` bytes. -/
def bytesOf (n code : Nat) : List Nat :=
  match n with
  | 1 => [code]
  | 2 => [0xC0 + code / 64, 0x80 + code % 64]
  | 3 => [0xE0 + code / 4096, 0x80 + code / 64 % 64, 0x80 + code % 64]
  | _ => [0xF0 + code / 262144, 0x80 + code / 4096 % 64, 0x80 + code / 64 % 64, 0x80 + code % 64]

/-- Splits a range of code points of one length where its last `k` bytes do not run through all
their values; `fuel` bounds the cuts. -/
def alignedRanges (fuel n k lo hi : Nat) : List (Nat × Nat) :=
  match fuel with
  | 0 => [(lo, hi)]
  | fuel + 1 =>
    if n ≤ k then [(lo, hi)]
    else
      let block := Nat.pow 64 k
      if lo / block = hi / block then alignedRanges fuel n (k + 1) lo hi
      else if lo % block ≠ 0 then
        let cut := (lo / block + 1) * block
        alignedRanges fuel n (k + 1) lo (cut - 1) ++ alignedRanges fuel n k cut hi
      else if hi % block ≠ block - 1 then
        let cut := hi / block * block
        alignedRanges fuel n k lo (cut - 1) ++ alignedRanges fuel n (k + 1) cut hi
      else alignedRanges fuel n (k + 1) lo hi

/-- The code points of a range that are written in `n` bytes. -/
def partOfLength (n lo hi : Nat) : List (Nat × Nat) :=
  let lo := max lo (if n = 1 then 0 else lastOfLength (n - 1) + 1)
  let hi := min hi (lastOfLength n)
  if lo ≤ hi then [(lo, hi)] else []

/-- A range of code points without the surrogates. -/
def withoutSurrogates (lo hi : Nat) : List (Nat × Nat) :=
  (if lo ≤ min hi 0xD7FF then [(lo, min hi 0xD7FF)] else []) ++
    (if max lo 0xE000 ≤ hi then [(max lo 0xE000, hi)] else [])

/-- The sequences of byte ranges that a set of characters is written with. -/
def byteSequences (set : CodeSet) : List (List ByteRange) :=
  set.ranges.flatMap fun r => (withoutSurrogates r.1 r.2).flatMap fun r =>
    [1, 2, 3, 4].flatMap fun n => (partOfLength n r.1 r.2).flatMap fun r =>
      (alignedRanges 16 n 1 r.1 r.2).map fun r => (bytesOf n r.1).zip (bytesOf n r.2)

/-- The number of different beginnings of the sequences: the states of the tree. -/
def beginnings (seqs : List (List ByteRange)) : Nat :=
  -- equal beginnings stand side by side
  (seqs.zip ([] :: seqs)).foldl
    (fun n (s, previous) =>
      n + (s.length - ((s.zip previous).takeWhile fun p => p.1 = p.2).length)) 0

/-- The different nodes at one depth of the least automaton: a node is the list of its byte
ranges and the rests of the sequences below each. `fuel` is the length of a sequence. -/
def nodesBelow (fuel : Nat) (seqs : List (List ByteRange)) : List (List (List ByteRange)) :=
  match fuel with
  | 0 => []
  | fuel + 1 =>
    let heads := (seqs.filterMap List.head?).eraseDups
    let rests := heads.map fun h => seqs.filterMap fun s =>
      match s with
      | r :: rest => if r = h then some rest else none
      | [] => none
    seqs :: (rests.filter fun r => r ≠ [[]]).eraseDups.flatMap (nodesBelow fuel)

/-- The bytes that the least automaton of a set takes. -/
def sharedSize (seqs : List (List ByteRange)) : Nat :=
  let nodes := (nodesBelow 4 seqs).eraseDups
  nodes.foldl (fun size node => size + 32 + 8 * (node.filterMap List.head?).eraseDups.length) 32

def setSize (set : CodeSet) (backwards : Bool) : Nat :=
  if set.ranges.all fun r => r.2 ≤ 0x7F then
    if set.size = 1 then 32 else 64 + 8 * set.ranges.length
  else
    let seqs := byteSequences set
    match seqs with
    | [s] => if s.all fun r => r.1 = r.2 then 32 * s.length else 64 + 40 * s.length
    | _ => if backwards then 64 + 4 * seqs.length + 32 * beginnings seqs else sharedSize seqs

/-- Whether the pattern matches nothing but the empty text. -/
def onlyEmpty : Pattern → Bool
  | .empty | .edge _ => true
  | .one _ => false
  | .group _ body => body.onlyEmpty
  | .seq a b | .alt a b => a.onlyEmpty && b.onlyEmpty
  | .times body _ most => body.onlyEmpty || most = some 0

/-- The bytes that a repetition takes whose body takes `body` bytes. -/
def timesSize (body least : Nat) (most : Option Nat) : Nat :=
  match most with
  | none => body * max least 1 + 72
  | some n =>
    if least = n then (if n = 0 then 32 else n * body)
    else (if least = 0 then 32 else least * body) + 32 + (n - least) * (body + 40)

/-- The bytes that the automaton of a pattern takes. -/
def size (backwards : Bool) : Pattern → Nat
  | .empty | .edge _ => 32
  | .one set => setSize set backwards
  | .group captures body => (if captures && !backwards then 64 else 0) + body.size backwards
  | .seq a b => a.size backwards + b.size backwards
  | .alt a b => a.size backwards + b.size backwards + 40
  | .times body least most =>
    if body.onlyEmpty then timesSize (body.size backwards) (min least 1) (some 1)
    else timesSize (body.size backwards) least most

def sizeLimit : Nat := 10 * Nat.pow 2 20

def isTooLarge (p : Pattern) : Bool := sizeLimit < p.size false || sizeLimit < p.size true

end CmsTypings.Pattern

/-!
Text read from octets.

The reading goes octet by octet. Between two characters nothing is held; inside one, the bits so
far and the ranges of the octets that must follow are. An octet outside its range breaks the
character off before it.
-/

namespace CmsTypings.Text.Utf8

/-- Octets that are no text: where the first broken character begins, and how many octets of it
could be read; none if the octets end inside it. -/
structure Fault where
  index : Nat
  size? : Option Nat
deriving DecidableEq, Repr

def Fault.message (f : Fault) : String :=
  match f.size? with
  | some n =>
    "invalid utf-8 sequence of " ++ toString n ++ " bytes from index " ++ toString f.index
  | none => "incomplete utf-8 byte sequence from index " ++ toString f.index

/-- The ranges of octets that continue a character. -/
abbrev Tail := List (Nat × Nat)

def anyTail : Nat → Tail
  | 0 => []
  | n + 1 => (0x80, 0xBF) :: anyTail n

/-- What a first octet contributes, and what must follow it. -/
def lead? (b : Nat) : Option (Nat × Tail) :=
  if b < 0x80 then some (b, [])
  else if b < 0xC2 then none
  else if b < 0xE0 then some (b - 0xC0, anyTail 1)
  else if b = 0xE0 then some (0, (0xA0, 0xBF) :: anyTail 1)
  else if b = 0xED then some (0xD, (0x80, 0x9F) :: anyTail 1)
  else if b < 0xF0 then some (b - 0xE0, anyTail 2)
  else if b = 0xF0 then some (0, (0x90, 0xBF) :: anyTail 2)
  else if b < 0xF4 then some (b - 0xF0, anyTail 3)
  else if b = 0xF4 then some (4, (0x80, 0x8F) :: anyTail 2)
  else none

/-- A reading: the characters so far, last first, where the current one begins, how many octets
of it are read, their bits, and what must follow. -/
structure State where
  done : List Char := []
  start : Nat := 0
  held : Nat := 0
  bits : Nat := 0
  awaited : Tail := []

/-- Goes on with the bits and the further octets of a character. -/
def State.hold (s : State) (bits : Nat) (awaited : Tail) : State :=
  match awaited with
  | [] => { done := Char.ofNat bits :: s.done, start := s.start + s.held + 1 }
  | _ => { s with held := s.held + 1, bits := bits, awaited := awaited }

def State.step (s : State) (octet : UInt8) : Except Fault State :=
  match s.awaited with
  | [] =>
    match lead? octet.toNat with
    | some (bits, awaited) => .ok (s.hold bits awaited)
    | none => .error ⟨s.start, some 1⟩
  | (lo, hi) :: rest =>
    if lo ≤ octet.toNat ∧ octet.toNat ≤ hi then
      .ok (s.hold (64 * s.bits + (octet.toNat - 0x80)) rest)
    else .error ⟨s.start, some s.held⟩

def run (s : State) : List UInt8 → Except Fault String
  | [] =>
    if s.awaited.isEmpty then .ok (String.ofList s.done.reverse) else .error ⟨s.start, none⟩
  | octet :: rest =>
    match s.step octet with
    | .ok s => run s rest
    | .error f => .error f

def decode (octets : List UInt8) : Except Fault String := run {} octets

end CmsTypings.Text.Utf8

import CmsTypings.Decimal.Layout
import CmsTypings.Decimal.Reading
import CmsTypings.Toml.Value
import CmsTypings.Unicode.CodeSet

/-!
Numbers, dates and times in a TOML document.
-/

namespace CmsTypings.Toml.Scalar

open Unicode (hexDigit?)

/-! ### Numbers -/

/-- More digits of a number, where an underscore may stand between two of them. -/
def moreDigits (isDigit : Char → Bool) : List Char → Option (List Char × List Char)
  | [] => some ([], [])
  | '_' :: c :: rest =>
    if isDigit c then (moreDigits isDigit rest).map fun r => (c :: r.1, r.2) else none
  | c :: rest =>
    if c = '_' then none
    else if isDigit c then (moreDigits isDigit rest).map fun r => (c :: r.1, r.2)
    else some ([], c :: rest)

/-- The digits of a number, at least one. -/
def digits (isDigit : Char → Bool) : List Char → Option (List Char × List Char)
  | [] => none
  | c :: rest =>
    if isDigit c then (moreDigits isDigit rest).map fun r => (c :: r.1, r.2) else none

/-- Whether an integer has at most 64 bits, one of them for its sign. -/
def fitsWord (n : Int) : Bool := -(Nat.pow 2 63 : Int) ≤ n && n < (Nat.pow 2 63 : Int)

/-- A number in another base than ten, after its mark. -/
def inBase (base : Nat) (text : List Char) : Option (Toml × List Char) := do
  let (ds, rest) ← digits (fun c => (hexDigit? c).any (· < base)) text
  let n := ds.foldl (fun n c => base * n + (hexDigit? c).getD 0) 0
  if n < Nat.pow 2 63 then some (.integer n, rest) else none

/-- A sign, where a plus may be left out, and what follows it. -/
def signed : List Char → Bool × List Char
  | '+' :: rest => (false, rest)
  | '-' :: rest => (true, rest)
  | rest => (false, rest)

/-- The whole part of a decimal number: a zero stands alone. -/
def whole : List Char → Option (List Char × List Char)
  | '0' :: rest => some (['0'], rest)
  | text => digits Char.isDigit text

/-- The exponent of a float, if there is one. -/
def exponent? : List Char → Option (Option Int × List Char)
  | c :: rest =>
    if c = 'e' ∨ c = 'E' then do
      let (negative, rest) := signed rest
      let (ds, rest) ← digits Char.isDigit rest
      let n : Int := Decimal.digitsValue ds
      some (some (if negative then -n else n), rest)
    else some (none, c :: rest)
  | [] => some (none, [])

def ofDouble? (x : Float) : Option Toml :=
  if x.isInf && !Decimal.isNegative x then none else some (.float x)

/-- An integer or a float in decimal digits. An integer fits into 64 bits. -/
def decimal (text : List Char) : Option (Toml × List Char) := do
  let (negative, text) := signed text
  let (ds, rest) ← whole text
  let (places, rest, point) ←
    match rest with
    | '.' :: more => (digits Char.isDigit more).map fun r => (r.1, r.2, true)
    | _ => some ([], rest, false)
  let (e, rest) ← exponent? rest
  if point || e.isSome then
    let x := Decimal.toDouble negative (ds ++ places) (e.getD 0 - places.length)
    (ofDouble? x).map (·, rest)
  else
    let n : Int := Decimal.digitsValue ds
    let n := if negative then -n else n
    if fitsWord n then some (.integer n, rest) else none

/-- The floats that have no digits. -/
def special? (text : List Char) : Option (Toml × List Char) :=
  let (negative, text) := signed text
  match text with
  | 'i' :: 'n' :: 'f' :: rest => some (.float (if negative then -(1 / 0) else 1 / 0), rest)
  | 'n' :: 'a' :: 'n' :: rest => some (.float (0 / 0), rest)
  | _ => none

def number : List Char → Option (Toml × List Char)
  | '0' :: 'x' :: rest => inBase 16 rest
  | '0' :: 'o' :: rest => inBase 8 rest
  | '0' :: 'b' :: rest => inBase 2 rest
  | text => (special? text).or (decimal text)

/-! ### Dates and times -/

/-- Two digits that stand for at most `greatest`. -/
def pair? (greatest : Nat) : List Char → Option (Nat × List Char)
  | a :: b :: rest =>
    if a.isDigit ∧ b.isDigit ∧ Decimal.digitsValue [a, b] ≤ greatest then
      some (Decimal.digitsValue [a, b], rest)
    else none
  | _ => none

def mark? (c : Char) : List Char → Option (List Char)
  | d :: rest => if d = c then some rest else none
  | [] => none

def daysIn (year month : Nat) : Nat :=
  if month = 2 then
    if year % 4 = 0 ∧ (year % 100 ≠ 0 ∨ year % 400 = 0) then 29 else 28
  else if [4, 6, 9, 11].contains month then 30
  else 31

/-- A date: the characters that write it, and what follows. -/
def date? : List Char → Option (List Char × List Char)
  | a :: b :: c :: d :: rest => do
    let year := [a, b, c, d]
    if year.all Char.isDigit then
      let text ← mark? '-' rest
      let (month, text) ← pair? 12 text
      let text ← mark? '-' text
      let (day, text) ← pair? 31 text
      if 0 < month ∧ 0 < day ∧ day ≤ daysIn (Decimal.digitsValue year) month then
        some (year ++ rest.take 6, text)
      else none
    else none
  | _ => none

/-- The fraction of a second, in at most nine places and without zeros at its end. -/
def fraction (ds : List Char) : List Char :=
  let kept := ((ds.take 9).reverse.dropWhile (· = '0')).reverse
  if kept.isEmpty then [] else '.' :: kept

def time? (text : List Char) : Option (List Char × List Char) := do
  let (_, rest) ← pair? 23 text
  let (_, rest) ← pair? 59 (← mark? ':' rest)
  let (_, rest) ← pair? 60 (← mark? ':' rest)
  match rest with
  | '.' :: more =>
    let ds := more.takeWhile Char.isDigit
    if ds.isEmpty then some (text.take 8, rest)
    else some (text.take 8 ++ fraction ds, more.dropWhile Char.isDigit)
  | _ => some (text.take 8, rest)

/-- How far a time is from the universal one; nothing where it does not say. -/
def offset : List Char → List Char × List Char
  | [] => ([], [])
  | c :: rest =>
    if c = 'Z' ∨ c = 'z' then (['Z'], rest)
    else if c = '+' ∨ c = '-' then
      match (do
        let (hours, more) ← pair? 23 rest
        let (minutes, more) ← pair? 59 (← mark? ':' more)
        return (hours + minutes = 0, more) : Option (Bool × List Char)) with
      | some (zero, more) => ((if zero then '+' else c) :: rest.take 5, more)
      | none => ([], c :: rest)
    else ([], c :: rest)

/-- A date, with a time or without, or a time alone. -/
def moment? (text : List Char) : Option (List Char × List Char) :=
  match date? text with
  | none => time? text
  | some (date, rest) =>
    match rest with
    | c :: more =>
      if c = 'T' ∨ c = 't' ∨ c = ' ' then
        match time? more with
        | some (time, rest) =>
          let (zone, rest) := offset rest
          some (date ++ 'T' :: time ++ zone, rest)
        | none => some (date, rest)
      else some (date, rest)
    | [] => some (date, [])

def any? (text : List Char) : Option (Toml × List Char) :=
  match text with
  | 't' :: 'r' :: 'u' :: 'e' :: rest => some (.boolean true, rest)
  | 'f' :: 'a' :: 'l' :: 's' :: 'e' :: rest => some (.boolean false, rest)
  | _ =>
    match moment? text with
    | some (written, rest) => some (.moment (String.ofList written), rest)
    | none => number text

end CmsTypings.Toml.Scalar

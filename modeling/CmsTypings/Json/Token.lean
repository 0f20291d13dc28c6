import CmsTypings.Decimal.Reading
import CmsTypings.Json.Error
import CmsTypings.Unicode.CodeSet

/-!
The tokens of JSON text.

A string or a number is judged twice: `kept` is what a reader that wants its value finds, while
one that passes over it asks only for the grammar. So an unpaired surrogate or a number beyond
the doubles is a fault in a kept value alone, and a `broken` token, on which nobody can go on,
says for both readers what they report.
-/

namespace CmsTypings.Json

/-- The fault that a reader reports who wants the value, and the one of a reader who skips it. -/
structure Stop where
  kept : Fault
  skipped : Fault
deriving DecidableEq, Repr

def Stop.both (fault : Fault) : Stop := ⟨fault, fault⟩

inductive Token where
  | openList | closeList | openMap | closeMap | colon | comma
  | null
  | bool (value : Bool)
  | number (kept : Except Fault Number)
  | string (kept : Except Fault String)
  | brokenString (stop : Stop)
  | broken (stop : Stop)

/-! ### Strings -/

open Unicode (hexDigit?)
open Decimal (digitValue digitsValue)

/-- The number that four hexadecimal digits spell. -/
def hexQuad (a b c d : Char) : Option Nat := do
  return 4096 * (← hexDigit? a) + 256 * (← hexDigit? b) + 16 * (← hexDigit? c) + (← hexDigit? d)

/-- Why no four hexadecimal digits begin a text with fewer than four characters: the text ends,
unless its characters take up four bytes all the same. -/
def shortQuad (rest : List Char) : Fault :=
  if (String.ofList rest).utf8ByteSize < 4 then .endInString else .escape

def isTrailSurrogate (n : Nat) : Bool := 0xDC00 ≤ n && n ≤ 0xDFFF

def isLeadSurrogate (n : Nat) : Bool := 0xD800 ≤ n && n ≤ 0xDBFF

/-- The character that a one-letter escape stands for. -/
def simpleEscape? : Char → Option Char
  | '"' => some '"'
  | '\\' => some '\\'
  | '/' => some '/'
  | 'b' => some '\x08'
  | 'f' => some '\x0c'
  | 'n' => some '\n'
  | 'r' => some '\r'
  | 't' => some '\t'
  | _ => none

/-- What stands after a leading surrogate when no second escape does. -/
def missingTrail : List Char → Fault
  | [] => .endInString
  | '\\' :: [] => .endInString
  | '\\' :: 'u' :: rest => shortQuad rest
  | _ => .endOfEscape

/-- The value of a string, read from after its opening quote to its closing one. -/
def keepString : List Char → Except Fault (List Char)
  | [] => .error .endInString
  | '"' :: _ => .ok []
  | '\\' :: 'u' :: a :: b :: c :: d :: rest =>
    match hexQuad a b c d with
    | none => .error .escape
    | some n =>
      if isTrailSurrogate n then .error .loneSurrogate
      else if isLeadSurrogate n then
        match rest with
        | '\\' :: 'u' :: e :: f :: g :: h :: more =>
          match hexQuad e f g h with
          | none => .error .escape
          | some m =>
            if isTrailSurrogate m then
              (keepString more).map
                (Char.ofNat (0x10000 + (n - 0xD800) * 0x400 + (m - 0xDC00)) :: ·)
            else .error .loneSurrogate
        | _ => .error (missingTrail rest)
      else (keepString rest).map (Char.ofNat n :: ·)
  | '\\' :: 'u' :: rest => .error (shortQuad rest)
  | '\\' :: c :: rest =>
    match simpleEscape? c with
    | some v => (keepString rest).map (v :: ·)
    | none => .error .escape
  | '\\' :: [] => .error .endInString
  | c :: rest => if c < ' ' then .error .controlCharacter else (keepString rest).map (c :: ·)

/-- The text after the closing quote of a string, read from after its opening one. -/
def skipString : List Char → Except Fault (List Char)
  | [] => .error .endInString
  | '"' :: rest => .ok rest
  | '\\' :: 'u' :: a :: b :: c :: d :: rest =>
    if (hexQuad a b c d).isSome then skipString rest else .error .escape
  | '\\' :: 'u' :: rest => .error (shortQuad rest)
  | '\\' :: c :: rest => if (simpleEscape? c).isSome then skipString rest else .error .escape
  | '\\' :: [] => .error .endInString
  | c :: rest => if c < ' ' then .error .controlCharacter else skipString rest

def stringToken (rest : List Char) : Token × List Char :=
  let kept := keepString rest
  match skipString rest with
  | .ok more => (.string (kept.map String.ofList), more)
  | .error f =>
    match kept with
    | .error k => (.brokenString ⟨k, f⟩, [])
    | .ok _ => (.brokenString (.both f), [])

/-! ### Numbers -/

/-- The parts of a number as written. `exponent` is absent or holds its sign and digits. -/
structure NumberText where
  negative : Bool
  whole : List Char
  fraction : List Char
  exponent : Option (Bool × List Char)

/-- Where the grammar of numbers is broken: a kept number distinguishes the end of the text. -/
def brokenNumber (rest : List Char) : Stop :=
  ⟨if rest.isEmpty then .endOfText else .number, .number⟩

/-- The exponent of a number, after its letter. -/
def exponentText (rest : List Char) : Except Stop ((Bool × List Char) × List Char) :=
  let (negative, rest) :=
    match rest with
    | '+' :: more => (false, more)
    | '-' :: more => (true, more)
    | _ => (false, rest)
  let ds := rest.takeWhile Char.isDigit
  if ds.isEmpty then .error (brokenNumber rest)
  else .ok ((negative, ds), rest.dropWhile Char.isDigit)

/-- Splits a number, whose sign is already taken off, into its parts. -/
def numberText (negative : Bool) (text : List Char) : Except Stop (NumberText × List Char) := do
  let whole := text.takeWhile Char.isDigit
  let rest := text.dropWhile Char.isDigit
  if whole.isEmpty then throw (brokenNumber rest)
  if whole.head? = some '0' ∧ 1 < whole.length then throw (.both .number)
  let (fraction, rest) ←
    match rest with
    | '.' :: more =>
      let ds := more.takeWhile Char.isDigit
      let rest := more.dropWhile Char.isDigit
      if ds.isEmpty then throw (brokenNumber rest) else pure (ds, rest)
    | _ => pure ([], rest)
  match rest with
  | 'e' :: more | 'E' :: more =>
    let (exponent, rest) ← exponentText more
    return (⟨negative, whole, fraction, some exponent⟩, rest)
  | _ => return (⟨negative, whole, fraction, none⟩, rest)

/-- The greatest significand: it fits into 64 bits. -/
def significandLimit : Nat := Nat.pow 2 64 - 1

/-- Digits taken into a significand while it fits: the significand, and the digits left over. -/
def takeDigits (significand : Nat) : List Char → Nat × List Char
  | [] => (significand, [])
  | c :: rest =>
    let next := 10 * significand + digitValue c
    if next ≤ significandLimit then takeDigits next rest else (significand, c :: rest)

/-- Ten to the `n`th power, as a double. -/
def powerOfTen (n : Nat) : Float := Float.ofScientific 1 false n

/-- `x * 10 ^ e` in one multiplication or in divisions by at most 10^308 each; a value beyond the
doubles is out of range. `fuel` bounds the divisions: past 10^-1000 every double is zero. -/
def scaleByTen (fuel : Nat) (x : Float) (e : Int) : Except Fault Float :=
  match fuel with
  | 0 => .ok 0
  | fuel + 1 =>
    if e.natAbs ≤ 308 then
      if 0 ≤ e then
        let y := x * powerOfTen e.toNat
        if y.isInf then .error .range else .ok y
      else .ok (x / powerOfTen e.natAbs)
    else if Decimal.isZero x then .ok x
    else if 0 ≤ e then .error .range
    else scaleByTen fuel (x / powerOfTen 308) (e + 308)

/-- The exponent that a number states, unless it has more than 31 bits. -/
def NumberText.statedExponent? (t : NumberText) : Option Int :=
  match t.exponent with
  | none => some 0
  | some (negative, ds) =>
    let n := digitsValue ds
    if n < Nat.pow 2 31 then some (if negative then -(n : Int) else n) else none

/-- The double that a number with a fraction or an exponent, or with too many digits, stands for. -/
def NumberText.toDouble (t : NumberText) : Except Fault Float := do
  let (s, wholeLeft) := takeDigits 0 t.whole
  -- a digit of the fraction that does not fit ends the significand for good
  let (s', fractionLeft) := takeDigits s t.fraction
  let size ←
    match t.statedExponent? with
    | some e =>
      scaleByTen 8 (UInt64.ofNat s').toFloat
        (e + wholeLeft.length - (t.fraction.length - fractionLeft.length : Nat))
    | none =>
      if s' ≠ 0 ∧ (t.exponent.map Prod.fst) = some false then throw .range else pure 0
  return if t.negative then -size else size

/-- The value of a number: an integer if it is written as one and fits into 64 bits. A zero with
a minus sign is a double. -/
def NumberText.value (t : NumberText) : Except Fault Number :=
  let n := digitsValue t.whole
  if t.fraction.isEmpty ∧ t.exponent.isNone then
    if t.negative then
      if 0 < n ∧ n ≤ Nat.pow 2 63 then .ok (.integer (-(n : Int))) else t.toDouble.map .double
    else if n ≤ significandLimit then .ok (.integer n)
    else t.toDouble.map .double
  else t.toDouble.map .double

def numberToken (negative : Bool) (text : List Char) : Token × List Char :=
  match numberText negative text with
  | .ok (t, rest) => (.number t.value, rest)
  | .error stop => (.broken stop, [])

/-! ### All tokens -/

/-- The rest of a word, expected letter by letter, makes the token `token`. -/
def wordToken (token : Token) : List Char → List Char → Token × List Char
  | [], rest => (token, rest)
  | _ :: _, [] => (.broken (.both .endOfText), [])
  | w :: ws, c :: rest =>
    if w = c then wordToken token ws rest else (.broken (.both .wordExpected), [])

def isBlank (c : Char) : Bool := c == ' ' || c == '\t' || c == '\n' || c == '\r'

/-- The token at the head of a text that is not blank there. After a broken token nothing is left
to read. -/
def tokenAt (c : Char) (rest : List Char) : Token × List Char :=
  match c with
  | '[' => (.openList, rest)
  | ']' => (.closeList, rest)
  | '{' => (.openMap, rest)
  | '}' => (.closeMap, rest)
  | ':' => (.colon, rest)
  | ',' => (.comma, rest)
  | '"' => stringToken rest
  | 'n' => wordToken .null ['u', 'l', 'l'] rest
  | 't' => wordToken (.bool true) ['r', 'u', 'e'] rest
  | 'f' => wordToken (.bool false) ['a', 'l', 's', 'e'] rest
  | '-' => numberToken true rest
  | c => if c.isDigit then numberToken false (c :: rest) else (.broken (.both .valueExpected), [])

/-- Tokens of a text of at most `n` characters: each takes up one at least. -/
def tokensWithin : Nat → List Char → List Token
  | 0, _ => []
  | n + 1, text =>
    match text.dropWhile isBlank with
    | [] => []
    | c :: rest =>
      let (token, more) := tokenAt c rest
      token :: tokensWithin n more

def tokens (text : List Char) : List Token := tokensWithin text.length text

end CmsTypings.Json

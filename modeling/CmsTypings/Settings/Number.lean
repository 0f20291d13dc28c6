import CmsTypings.Toml.Scalar

/-!
Numbers in sources that write them as plain text.
-/

namespace CmsTypings.Setting

open Toml.Scalar (signed fitsWord)

/-- A whole number with its sign, of at most 64 bits. -/
def integer? (text : List Char) : Option Int :=
  let (negative, digits) := signed text
  if digits.isEmpty || !digits.all Char.isDigit then none
  else
    let n : Int := Decimal.digitsValue digits
    let n := if negative then -n else n
    if fitsWord n then some n else none

/-- The exponent behind a number; none follows where nothing is left. -/
def exponent? : List Char → Option Int
  | [] => some 0
  | c :: rest =>
    let (negative, digits) := signed rest
    if (c = 'e' ∨ c = 'E') ∧ !digits.isEmpty ∧ digits.all Char.isDigit then
      let n : Int := Decimal.digitsValue digits
      some (if negative then -n else n)
    else none

/-- A decimal number, or one of the words for what is none. -/
def float? (text : List Char) : Option Float :=
  let (negative, rest) := signed text
  let word := (String.ofList rest).toLower
  if word = "inf" ∨ word = "infinity" then some (if negative then -(1 / 0) else 1 / 0)
  else if word = "nan" then some (0 / 0)
  else
    let whole := rest.takeWhile Char.isDigit
    let rest := rest.dropWhile Char.isDigit
    let (places, rest) :=
      match rest with
      | '.' :: more => (more.takeWhile Char.isDigit, more.dropWhile Char.isDigit)
      | _ => ([], rest)
    if whole.isEmpty && places.isEmpty then none
    else
      (exponent? rest).map fun e =>
        Decimal.toDouble negative (whole ++ places) (e - places.length)

end CmsTypings.Setting

import CmsTypings.Decimal.Shortest

/-!
Doubles as text.

Both layouts write the shortest digits that read back. `marked` keeps a point in every number and
goes over to an exponent outside a range of sizes; `plain` is positional at every size and writes
a whole number without a point.
-/

namespace CmsTypings.Decimal

def digitsOf (n : Nat) : List Char := (toString n).toList

def zeros (n : Nat) : List Char := List.replicate n '0'

/-- The digits `ds` with the point after the first `whole` of them; `whole` may lie outside. -/
def positional (ds : List Char) (whole : Int) : List Char × List Char :=
  if whole ≤ 0 then (['0'], zeros (-whole).toNat ++ ds)
  else (ds.take whole.toNat ++ zeros (whole.toNat - ds.length), ds.drop whole.toNat)

/-- A finite, positive double: its digits, and how many of them stand before the point. -/
def digitsAndPoint (x : Float) : List Char × Int :=
  let s := (Binary.ofBits (x.toBits.toNat % Nat.pow 2 63)).shortest
  let ds := digitsOf s.digits
  (ds, ds.length + s.exponent)

def isNegative (x : Float) : Bool := Nat.pow 2 63 ≤ x.toBits.toNat

def isZero (x : Float) : Bool := x.toBits.toNat % Nat.pow 2 63 = 0

def signOf (x : Float) : List Char := if isNegative x then ['-'] else []

/-- A finite double with its point always written: positional while its leading digit stands
between 10^-5 and 10^15, otherwise with a signed exponent. -/
def marked (x : Float) : String :=
  let body :=
    if isZero x then "0.0".toList
    else
      let (ds, whole) := digitsAndPoint x
      if -5 < whole ∧ whole ≤ 16 then
        let (before, after) := positional ds whole
        before ++ '.' :: (if after.isEmpty then ['0'] else after)
      else
        let mantissa := ds.take 1 ++ (if ds.length = 1 then [] else '.' :: ds.drop 1)
        let e := whole - 1
        mantissa ++ 'e' :: (if 0 ≤ e then '+' else '-') :: digitsOf e.natAbs
  String.ofList (signOf x ++ body)

/-- A double in positional digits alone. -/
def plain (x : Float) : String :=
  if x.isNaN then "NaN"
  else
    let body :=
      if x.isInf then "inf".toList
      else if isZero x then ['0']
      else
        let (ds, whole) := digitsAndPoint x
        let (before, after) := positional ds whole
        if after.isEmpty then before else before ++ '.' :: after
    String.ofList (signOf x ++ body)

end CmsTypings.Decimal

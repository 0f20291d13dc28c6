/-!
Numbers read from decimal digits.
-/

namespace CmsTypings.Decimal

def digitValue (c : Char) : Nat := c.toNat - '0'.toNat

def digitsValue (ds : List Char) : Nat := ds.foldl (fun n c => 10 * n + digitValue c) 0

/-- Past this many places before or behind the point no double differs from infinity or zero. -/
def farthestPlace : Int := 400

/-- The double nearest to `digits * 10 ^ exponent`. -/
def toDouble (negative : Bool) (digits : List Char) (exponent : Int) : Float :=
  let ds := digits.dropWhile (· = '0')
  let places := ds.length + exponent
  let size :=
    if ds.isEmpty ∨ places < -farthestPlace then 0
    else if farthestPlace < places then 1 / 0
    else Float.ofScientific (digitsValue ds) (exponent < 0) exponent.natAbs
  if negative then -size else size

end CmsTypings.Decimal

/-!
The shortest decimal that reads back as a given double.

A finite double is `m * 2 ^ q`. The reals that round to it form an interval around it, closed when
`m` is even. The grids of the powers of ten are tried from coarse to fine; the first grid with a
point in the interval gives the fewest digits, and of two such points the nearer one is taken.
-/

namespace CmsTypings.Decimal

/-- The size of a finite double: `mantissa * 2 ^ (scale - 1074)`. `narrowBelow` says that the
next double below is only half as far away as the next one above. -/
structure Binary where
  mantissa : Nat
  scale : Nat
  narrowBelow : Bool

def Binary.ofBits (bits : Nat) : Binary :=
  let field := bits / Nat.pow 2 52 % 2048
  let fraction := bits % Nat.pow 2 52
  if field = 0 then ⟨fraction, 0, false⟩
  else ⟨fraction + Nat.pow 2 52, field - 1, fraction = 0 && 1 < field⟩

/-- The number `digits * 10 ^ exponent`. -/
structure Scientific where
  digits : Nat
  exponent : Int
deriving DecidableEq, Repr

/-- The four quantities below are counted in quarters of `2 ^ -1074`. -/
def Binary.quarters (b : Binary) : Nat := 4 * b.mantissa * Nat.pow 2 b.scale

def Binary.lower (b : Binary) : Nat :=
  (4 * b.mantissa - if b.narrowBelow then 1 else 2) * Nat.pow 2 b.scale

def Binary.upper (b : Binary) : Nat := (4 * b.mantissa + 2) * Nat.pow 2 b.scale

/-- The quotient of two naturals, as numerator and denominator of `10 ^ k` in those quarters. -/
def gridStep (k : Int) : Nat × Nat :=
  if 0 ≤ k then (Nat.pow 10 k.toNat * Nat.pow 2 1076, 1)
  else (Nat.pow 2 1076, Nat.pow 10 (-k).toNat)

/-- The point of the grid `10 ^ k` that stands for `b`, if the grid has one. -/
def Binary.onGrid? (b : Binary) (k : Int) : Option Scientific :=
  let (num, den) := gridStep k
  let value := b.quarters * den
  let below := value / num
  let within (d : Nat) : Bool :=
    let point := d * num
    let lo := b.lower * den
    let hi := b.upper * den
    d ≠ 0 && (if b.mantissa % 2 = 0 then lo ≤ point && point ≤ hi else lo < point && point < hi)
  match within below, within (below + 1) with
  | true, true =>
    let toBelow := value - below * num
    let toAbove := (below + 1) * num - value
    if toBelow < toAbove || (toBelow = toAbove && below % 2 = 0) then some ⟨below, k⟩
    else some ⟨below + 1, k⟩
  | true, false => some ⟨below, k⟩
  | false, true => some ⟨below + 1, k⟩
  | false, false => none

/-- The shortest decimal of a nonzero double. -/
def Binary.shortest (b : Binary) : Scientific :=
  ((List.range 640).findSome? fun (i : Nat) => b.onGrid? (309 - (i : Int))).getD ⟨0, 0⟩

end CmsTypings.Decimal

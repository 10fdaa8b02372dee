/-!
# Shortest decimals

Every finite float is `m * 2^q` for whole numbers `m` and `q`.  The reals that round to it form an
interval, and this module selects the decimal of fewest digits in that interval, and among those
the one nearest to the float.  All comparisons are exact comparisons of natural numbers.

## Main definitions

* `Binary` — the value of a finite float, without its sign
* `Decimal` — digits and a power of ten
* `Binary.readsBack` — whether a decimal rounds to the float
* `Binary.shortest` — the decimal selected

## Design notes

For one, two, … digits only the two neighbours of the float on the decimal grid of that many digits
can be selected, because they are the nearest.  Seventeen digits always suffice; the exact decimal
expansion stands behind the search, so that the function never has to guess.
-/

namespace Multidispatch.Numeral

/-- The value of a finite float without its sign, `mantissa * 2^exponent`. -/
structure Binary where
  /-- The whole number that is scaled. -/
  mantissa : Nat
  /-- The power of two that scales it. -/
  exponent : Int
  /-- Whether the next float below is half as far away as the next one above. -/
  narrowBelow : Bool

/-- A decimal, `digits * 10^exponent`. -/
structure Decimal where
  /-- The significant digits, read as a number. -/
  digits : Nat
  /-- The power of ten that scales them. -/
  exponent : Int
deriving DecidableEq, Repr

/-- A power of two. -/
def twoTo (k : Nat) : Nat := Nat.pow 2 k

/-- A power of ten. -/
def tenTo (k : Nat) : Nat := Nat.pow 10 k

/-- Compares `a * 10^i` with `n * 2^j`. -/
def compareScaled (a : Nat) (i : Int) (n : Nat) (j : Int) : Ordering :=
  compare (a * tenTo i.toNat * twoTo (-j).toNat) (n * twoTo j.toNat * tenTo (-i).toNat)

namespace Binary

/-- The value that the bits of a finite float stand for. -/
def ofBits (bits : UInt64) : Binary :=
  let scale := ((bits >>> 52) &&& 0x7FF).toNat
  let fraction := (bits &&& 0xFFFFFFFFFFFFF).toNat
  if scale = 0 then
    ⟨fraction, -1074, false⟩
  else
    ⟨twoTo 52 + fraction, (scale : Int) - 1075, fraction = 0 ∧ 1 < scale⟩

/-- Whether the decimal lies among the reals that round to the float.  The ends of the interval
belong to it when the mantissa is even. -/
def readsBack (x : Binary) (d : Decimal) : Bool :=
  let low := if x.narrowBelow then 4 * x.mantissa - 1 else 4 * x.mantissa - 2
  let fromLow := compareScaled d.digits d.exponent low (x.exponent - 2)
  let fromHigh := compareScaled d.digits d.exponent (4 * x.mantissa + 2) (x.exponent - 2)
  let closed := x.mantissa % 2 = 0
  (fromLow = .gt ∨ (closed ∧ fromLow = .eq)) ∧ (fromHigh = .lt ∨ (closed ∧ fromHigh = .eq))

/-- Whether the value is less than `10^k`. -/
def below (x : Binary) (k : Int) : Bool :=
  compareScaled 1 k x.mantissa x.exponent = .gt

/-- The least `k` from `start` upwards, among as many as `tries`, for which the value is less than
`10^k`. -/
def leastAbove (x : Binary) : Nat → Int → Int
  | 0, start => start
  | tries + 1, start => if x.below start then start else leastAbove x tries (start + 1)

/-- The least `k` for which the value, which is not zero, is less than `10^k`.  A power of two is
at least the power of ten whose exponent is a little less than three tenths of its own; the search
starts there. -/
def scale (x : Binary) : Int :=
  let log := (x.mantissa.log2 : Int) + x.exponent
  x.leastAbove 12 ((log * 30103).fdiv 100000 - 4)

/-- The largest multiple of `10^k` that does not exceed the value, counted in `10^k`. -/
def floorAt (x : Binary) (k : Int) : Nat :=
  (x.mantissa * twoTo x.exponent.toNat * tenTo (-k).toNat) /
    (twoTo (-x.exponent).toNat * tenTo k.toNat)

/-- The neighbour of the value on the grid of `10^k` that reads back, the nearer one if both do,
and the upper one if they are equally near. -/
def neighbour? (x : Binary) (k : Int) : Option Decimal :=
  let low : Decimal := ⟨x.floorAt k, k⟩
  let high : Decimal := ⟨x.floorAt k + 1, k⟩
  match x.readsBack low, x.readsBack high with
  | true, true =>
    -- The midpoint of the two neighbours decides which is nearer.
    if compareScaled (2 * low.digits + 1) k (2 * x.mantissa) x.exponent = .gt then low else high
  | true, false => low
  | false, true => high
  | false, false => none

/-- The value itself as a decimal, with all its digits. -/
def exact (x : Binary) : Decimal :=
  ⟨x.mantissa * twoTo x.exponent.toNat * Nat.pow 5 (-x.exponent).toNat, min x.exponent 0⟩

end Binary

namespace Decimal

/-- Moves trailing zeros of the digits into the exponent, at most `tries` of them. -/
def stripZeros : Nat → Decimal → Decimal
  | 0, d => d
  | tries + 1, d =>
    if d.digits % 10 = 0 then stripZeros tries ⟨d.digits / 10, d.exponent + 1⟩ else d

end Decimal

/-- The decimal of fewest digits that reads back as the value, which is not zero. -/
def Binary.shortest (x : Binary) : Decimal :=
  let found := (List.range 17).findSome? fun (n : Nat) => x.neighbour? (x.scale - (n + 1))
  let decimal := found.getD x.exact
  decimal.stripZeros (Nat.log2 decimal.digits)

end Multidispatch.Numeral

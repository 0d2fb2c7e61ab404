import PlaneSketch.Decimal.Rounding

namespace PlaneSketch.Decimal

-- The numbers that read back as one double, as a multiple of a quarter of its last place: they
-- reach half a place up, and half a place down unless the mantissa is the least of its binade,
-- where the doubles below are twice as dense. The ends round to an even mantissa.
structure ReadBack where
  low : Nat
  high : Nat
  closed : Bool

namespace ReadBack

-- The least exponent of a double. Its binade goes on below without a change of density.
def leastExponent : Int := -1074

-- The least mantissa of a binade.
def leastMantissa : Nat := 1 <<< 52

def ofDyadic (mantissa : Nat) (exponent : Int) : ReadBack :=
  { low := if mantissa = leastMantissa ∧ exponent ≠ leastExponent then 4 * mantissa - 1
      else 4 * mantissa - 2
    high := 4 * mantissa + 2
    closed := mantissa % 2 == 0 }

-- The decimal candidate, over the same power of ten and of two as the interval.
def contains (r : ReadBack) (unit : Ratio) (candidate : Nat) : Bool :=
  let scaled := candidate * unit.den
  if r.closed then decide (r.low * unit.num ≤ scaled ∧ scaled ≤ r.high * unit.num)
  else decide (r.low * unit.num < scaled ∧ scaled < r.high * unit.num)

end ReadBack

-- The better of the two neighbours of the value on the grid of decimals with this many digits,
-- among those that read back: the nearer one, of two equally near the even one.
def neighbour (mantissa : Nat) (exponent : Int) (count : Nat) : Option Digits :=
  let value := Ratio.ofDyadic mantissa exponent
  let leading := value.exponent
  let grid := value.shift (count - 1 - leading)
  let unit := (Ratio.ofDyadic 1 (exponent - 2)).shift (count - 1 - leading)
  let interval := ReadBack.ofDyadic mantissa exponent
  let below := grid.floor
  let above := below + 1
  let finish (digits : Nat) : Digits :=
    if digits < powerOfTen count then ⟨digits, leading⟩
    else ⟨powerOfTen (count - 1), leading + 1⟩
  match interval.contains unit below, interval.contains unit above with
  | true, true => some (finish grid.round)
  | true, false => some (finish below)
  | false, true => some (finish above)
  | false, false => none

-- The fewest digits that read back as the double with this mantissa and exponent. Seventeen always
-- do, so the last resort is never needed.
def shortest (mantissa : Nat) (exponent : Int) : Digits :=
  ((List.range 17).findSome? fun n => neighbour mantissa exponent (n + 1)).getD
    ((Ratio.ofDyadic mantissa exponent).significant 17)

end PlaneSketch.Decimal

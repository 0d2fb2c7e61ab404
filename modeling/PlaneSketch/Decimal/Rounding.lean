namespace PlaneSketch.Decimal

def powerOfTen (n : Nat) : Nat := Nat.pow 10 n

-- A positive number as a quotient of naturals: a mantissa times a power of two.
structure Ratio where
  num : Nat
  den : Nat

namespace Ratio

def ofDyadic (mantissa : Nat) (exponent : Int) : Ratio :=
  if 0 ≤ exponent then ⟨mantissa <<< exponent.toNat, 1⟩ else ⟨mantissa, 1 <<< (-exponent).toNat⟩

-- The number times a power of ten.
def shift (r : Ratio) (places : Int) : Ratio :=
  if 0 ≤ places then ⟨r.num * powerOfTen places.toNat, r.den⟩
  else ⟨r.num, r.den * powerOfTen (-places).toNat⟩

def floor (r : Ratio) : Nat := r.num / r.den

-- The nearest natural number, a half going to the even neighbour.
def round (r : Ratio) : Nat :=
  let quotient := r.num / r.den
  let twice := 2 * (r.num % r.den)
  if twice < r.den then quotient
  else if r.den < twice then quotient + 1
  else quotient + quotient % 2

-- The power of ten that is at most the number is no larger than this one, and at least two less:
-- a binary logarithm fixes the decimal one up to a unit.
def exponentGuess (r : Ratio) : Int :=
  ((r.num.log2 : Int) - (r.den.log2 : Int)) * 30103 / 100000 + 1

-- The exponent of the leading decimal digit.
def exponent (r : Ratio) : Int :=
  let guess := r.exponentGuess
  if 1 ≤ (r.shift (-guess)).floor then guess
  else if 1 ≤ (r.shift (-(guess - 1))).floor then guess - 1
  else guess - 2

end Ratio

-- Decimal digits as one natural number, with the exponent of the leading digit.
structure Digits where
  digits : Nat
  exponent : Int

-- The number rounded to a count of significant digits. Rounding up to the next power of ten moves
-- the leading digit.
def Ratio.significant (r : Ratio) (count : Nat) : Digits :=
  let rounded := (r.shift (count - 1 - r.exponent)).round
  if rounded < powerOfTen count then ⟨rounded, r.exponent⟩
  else ⟨powerOfTen (count - 1), r.exponent + 1⟩

end PlaneSketch.Decimal

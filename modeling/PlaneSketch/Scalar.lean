import PlaneSketch.Binary.Hypot

namespace PlaneSketch

-- What the geometry asks of its numbers. The program runs on doubles; the same definitions can be
-- read over any other field with a square root. Nothing here asks for laws: on doubles there are
-- few, and a statement that needs some takes them as it finds them.
class Scalar (α : Type) extends Add α, Sub α, Mul α, Div α, Neg α, LT α, LE α, BEq α,
    OfScientific α where
  decLt : DecidableLT α
  decLe : DecidableLE α
  abs : α → α
  sqrt : α → α
  hypot : α → α → α

instance decidableLt {α : Type} [Scalar α] (a b : α) : Decidable (a < b) := Scalar.decLt a b

instance decidableLe {α : Type} [Scalar α] (a b : α) : Decidable (a ≤ b) := Scalar.decLe a b

instance : Scalar Float where
  decLt := inferInstance
  decLe := inferInstance
  abs := Float.abs
  sqrt := Float.sqrt
  hypot := Binary.hypot

namespace Scalar

variable {α : Type} [Scalar α]

-- Lengths below this are taken for zero.
def tolerance : α := 1e-5

-- The smaller of two numbers; the first unless the second is strictly below it.
def least (a b : α) : α := if b < a then b else a

-- The greater of two numbers; the first unless the second is strictly above it.
def greatest (a b : α) : α := if a < b then b else a

-- Equal outright, or closer than the given bound. The first test is what makes two infinities
-- of one sign equal.
def close (bound a b : α) : Bool := a == b || decide (abs (a - b) < bound)

end Scalar

end PlaneSketch

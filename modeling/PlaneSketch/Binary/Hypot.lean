namespace PlaneSketch.Binary

open Float.Model

-- The sum of two squares of positive dyadic numbers, exactly. Both squares are written over the
-- smaller of the two exponents, so nothing is lost before the one rounding of the square root.
def sumOfSquares (m : Nat) (e : Int) (n : Nat) (f : Int) : Nat × Int :=
  let low := min e f
  ((m * m) <<< (2 * (e - low)).toNat + (n * n) <<< (2 * (f - low)).toNat, 2 * low)

theorem sumOfSquares_pos (m : Nat) (e : Int) (n : Nat) (f : Int) (hm : 0 < m) :
    0 < (sumOfSquares m e n f).1 := by
  refine Nat.add_pos_left ?_ _
  rw [Nat.shiftLeft_eq]
  exact Nat.mul_pos (Nat.mul_pos hm hm) (Nat.two_pow_pos _)

-- The length of a vector with the given coordinates. An infinite coordinate decides the answer
-- even beside a NaN, and a zero coordinate leaves the magnitude of the other.
def unpackedHypot : UnpackedFloat → UnpackedFloat → UnpackedFloat
  | .infinity _, _ => .infinity .positive
  | _, .infinity _ => .infinity .positive
  | .notANumber, _ => .notANumber
  | _, .notANumber => .notANumber
  | .zero _, .zero _ => .zero .positive
  | .zero _, .finite _ n f hn => .finite .positive n f hn
  | .finite _ m e hm, .zero _ => .finite .positive m e hm
  | .finite _ m e hm, .finite _ n f _ =>
      UnpackedFloat.sqrt Format.binary64
        (.finite .positive (sumOfSquares m e n f).1 (sumOfSquares m e n f).2
          (sumOfSquares_pos m e n f hm))

-- The length of a vector. Of a length no more is promised than that it is right to within one unit
-- in the last place; of those that are, this is the correctly rounded one. The squares are exact,
-- so no intermediate value overflows or underflows.
def hypot (x y : Float) : Float :=
  Float.ofModel (Float.Model.pack (unpackedHypot x.toModel.unpack y.toModel.unpack))

-- The whole part of the magnitude, zero for values that are not finite.
def wholeMagnitude (x : Float) : Nat :=
  match x.toModel.unpack with
  | .finite _ m e _ => if 0 ≤ e then m <<< e.toNat else m >>> (-e).toNat
  | _ => 0

end PlaneSketch.Binary

import PlaneSketch.Geometry.Arc

namespace PlaneSketch

namespace Angle

def halfTurn : Float := 3.141592653589793

def fullTurn : Float := 2.0 * halfTurn

-- Full turns added until the angle is above minus a half turn, at most the given number. An angle
-- so large that a turn does not change it is left alone.
def turnUp : Nat → Float → Float
  | 0, angle => angle
  | n + 1, angle =>
      if angle ≤ -halfTurn ∧ (angle + fullTurn == angle) = false then turnUp n (angle + fullTurn)
      else angle

-- Full turns taken away until the angle is at most a half turn.
def turnDown : Nat → Float → Float
  | 0, angle => angle
  | n + 1, angle =>
      if halfTurn < angle ∧ (angle - fullTurn == angle) = false then turnDown n (angle - fullTurn)
      else angle

-- The angle brought between minus a half turn and a half turn. A turn is longer than one radian,
-- so the whole part of the magnitude bounds the number of turns.
def wrap (angle : Float) : Float :=
  let raised := turnUp (Binary.wholeMagnitude angle) angle
  turnDown (Binary.wholeMagnitude raised) raised

end Angle

namespace Point

-- The direction from one point to another as an angle.
def bearing (origin p : Point Float) : Float := Float.atan2 (p.y - origin.y) (p.x - origin.x)

end Point

namespace Arc

-- The distance to the arc: to the circle when the point lies in the sweep of the arc as seen from
-- the center, else to the nearer end.
def dist (arc : Arc Float) (p : Point Float) : Float :=
  let center := arc.adjustedCenter
  let start := center.bearing arc.a
  let sweep := Angle.wrap (center.bearing arc.b - start)
  let relative := Angle.wrap (center.bearing p - start)
  let within :=
    if 0.0 ≤ sweep then decide (0.0 ≤ relative ∧ relative ≤ sweep)
    else decide (sweep ≤ relative ∧ relative ≤ 0.0)
  if within then (p.dist center - center.dist arc.a).abs
  else Scalar.least (p.dist arc.a) (p.dist arc.b)

end Arc

end PlaneSketch

import PlaneSketch.Geometry.Line

namespace PlaneSketch

-- The arc from one end to the other around a center, always the short way.
structure Arc (α : Type) where
  a : Point α
  b : Point α
  center : Point α
deriving DecidableEq

namespace Arc

-- The center moved onto the perpendicular bisector of the ends. While a sketch is unfinished the
-- ends may stand at different radii; the moved center has both at one distance.
def adjustedCenter {α : Type} [Scalar α] (arc : Arc α) : Point α :=
  if arc.a.dist arc.b < Scalar.tolerance then arc.center
  else
    let mid := arc.a.midpoint arc.b
    let bisector : Line α := ⟨mid, mid + (arc.b - arc.a).rotate90⟩
    (bisector.project arc.center).point

end Arc

end PlaneSketch

import PlaneSketch.Geometry.Line

namespace PlaneSketch

-- Where the label of a dimension between two points is drawn: the parameter along the dimension
-- and the distance to its left.
structure Placement (α : Type) where
  t : α
  offset : α
deriving DecidableEq

namespace Placement

variable {α : Type} [Scalar α]

-- In the middle of the dimension.
def standard : Placement α := ⟨0.5, 0.0⟩

-- The placement that puts a label at the given position.
def ofPosition (a b label : Point α) : Placement α :=
  let direction := (b - a).normalize
  let relative := label - a
  let length := a.dist b
  { t := if Scalar.tolerance ≤ length then direction.dot relative / length else 0.0
    offset := direction.rotate90.dot relative }

-- The position of a label with this placement.
def position (placement : Placement α) (a b : Point α) : Point α :=
  let delta := b - a
  a + delta.scale placement.t + delta.rotate90.normalize.scale placement.offset

end Placement

end PlaneSketch

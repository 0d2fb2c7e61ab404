import PlaneSketch.Geometry.Line

namespace PlaneSketch

-- An upright box, by two opposite corners in any order.
structure Box (α : Type) where
  a : Point α
  b : Point α

namespace Box

variable {α : Type} [Scalar α]

def low (box : Box α) : Point α :=
  ⟨Scalar.least box.a.x box.b.x, Scalar.least box.a.y box.b.y⟩

def high (box : Box α) : Point α :=
  ⟨Scalar.greatest box.a.x box.b.x, Scalar.greatest box.a.y box.b.y⟩

-- The point lies in the box, or outside it by no more than the slack in each coordinate.
def contains (box : Box α) (slack : α) (p : Point α) : Bool :=
  decide (box.low.x - slack ≤ p.x ∧ p.x ≤ box.high.x + slack ∧
    box.low.y - slack ≤ p.y ∧ p.y ≤ box.high.y + slack)

-- The four sides, clockwise from the lower left corner.
def sides (box : Box α) : List (Line α) :=
  let upper : Point α := ⟨box.low.x, box.high.y⟩
  let lower : Point α := ⟨box.high.x, box.low.y⟩
  [⟨box.low, upper⟩, ⟨upper, box.high⟩, ⟨box.high, lower⟩, ⟨lower, box.low⟩]

end Box

end PlaneSketch

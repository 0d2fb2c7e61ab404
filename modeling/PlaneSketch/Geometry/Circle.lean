import PlaneSketch.Geometry.Line

namespace PlaneSketch

structure Circle (α : Type) where
  center : Point α
  radius : α
deriving DecidableEq

namespace Line

variable {α : Type} [Scalar α]

-- Half the linear coefficient and the discriminant of the quadratic in the distance along the
-- line from its first point: the points on the circle are its roots.
def halfLinear (l : Line α) (c : Circle α) : α := (l.a - c.center).dot l.direction

def discriminant (l : Line α) (c : Circle α) : α :=
  let offset := l.a - c.center
  let half := l.halfLinear c
  half * half - (offset.dot offset - c.radius * c.radius)

-- The points of an infinite line on a circle: none, one for a tangent, or two, the one further
-- back along the line first.
def meetCircle (l : Line α) (c : Circle α) : List (Point α) :=
  if l.length < Scalar.tolerance then []
  else
    let direction := l.direction
    let half := l.halfLinear c
    let discriminant := l.discriminant c
    if Scalar.abs discriminant < Scalar.tolerance then [l.a + direction.scale (-half)]
    else if discriminant < 0.0 then []
    else
      let root := Scalar.sqrt discriminant
      [l.a + direction.scale (-half - root), l.a + direction.scale (-half + root)]

end Line

namespace Circle

variable {α : Type} [Scalar α]

-- Where the chord common to two circles cuts the line of centers, measured from the first center.
def chordOffset (c d : Circle α) : α :=
  let gap := c.center.dist d.center
  (gap * gap + c.radius * c.radius - d.radius * d.radius) / (2.0 * gap)

def chordBase (c d : Circle α) : Point α :=
  c.center + (d.center - c.center).normalize.scale (c.chordOffset d)

-- The points common to two circles: none when the centers coincide or the circles are apart or
-- nested, one when they touch, else two, the one to the right of the line of centers first.
def meetCircle (c d : Circle α) : List (Point α) :=
  let gap := c.center.dist d.center
  let sum := c.radius + d.radius
  let difference := Scalar.abs (c.radius - d.radius)
  if gap < Scalar.tolerance then []
  else if sum + Scalar.tolerance < gap then []
  else if gap < difference - Scalar.tolerance then []
  else
    let along := c.chordOffset d
    let base := c.chordBase d
    let heightSquared := c.radius * c.radius - along * along
    if Scalar.abs (gap - sum) < Scalar.tolerance ∨
        Scalar.abs (gap - difference) < Scalar.tolerance ∨ heightSquared ≤ 0.0 then
      [base]
    else
      let forward := (d.center - c.center).normalize
      let right : Point α := ⟨forward.y, -forward.x⟩
      let height := Scalar.sqrt heightSquared
      [base + right.scale height, base + right.scale (-height)]

end Circle

end PlaneSketch

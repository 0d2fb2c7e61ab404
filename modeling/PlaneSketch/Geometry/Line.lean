import PlaneSketch.Geometry.Point

namespace PlaneSketch

-- Two points. Whether they stand for the infinite line through them or for the segment between
-- them is up to the operation.
structure Line (α : Type) where
  a : Point α
  b : Point α
deriving DecidableEq

-- A foot on a line with its parameter, 0 at the first point of the line and 1 at the second.
structure Projection (α : Type) where
  point : Point α
  t : α

namespace Line

variable {α : Type} [Scalar α]

def length (l : Line α) : α := l.a.dist l.b

def direction (l : Line α) : Point α := (l.b - l.a).normalize

-- The foot of a point on the infinite line. A line without direction takes every point to its
-- first point.
def project (l : Line α) (p : Point α) : Projection α :=
  let length := l.length
  if length < Scalar.tolerance then ⟨l.a, 0.0⟩
  else
    let direction := l.direction
    let along := (p - l.a).dot direction
    ⟨l.a + direction.scale along, along / length⟩

-- The distance to the segment: to the foot when it falls between the ends, else to the end on
-- that side.
def segmentDist (l : Line α) (p : Point α) : α :=
  if l.length < Scalar.tolerance then p.dist l.a
  else
    let foot := l.project p
    if 0.0 ≤ foot.t ∧ foot.t ≤ 1.0 then p.dist foot.point
    else if foot.t < 0.0 then p.dist l.a
    else p.dist l.b

-- The parameters on both lines of the point where two infinite lines cross, if they have
-- directions and these are not parallel.
def crossing (l k : Line α) : Option (α × α) :=
  let d := l.b - l.a
  let e := k.b - k.a
  if d.norm < Scalar.tolerance ∨ e.norm < Scalar.tolerance then none
  else if Scalar.abs (d.normalize.cross e.normalize) < Scalar.tolerance then none
  else
    let gap := k.a - l.a
    let scale := d.cross e
    some (gap.cross e / scale, gap.cross d / scale)

def pointAt (l : Line α) (t : α) : Point α := l.a + (l.b - l.a).scale t

-- The point where two infinite lines cross.
def meetLine (l k : Line α) : Option (Point α) :=
  (l.crossing k).map fun t => l.pointAt t.1

-- A parameter that lies on the segment, give or take the tolerance as a length.
def onSegment (l : Line α) (t : α) : Prop :=
  -(Scalar.tolerance / l.length) ≤ t ∧ t ≤ 1.0 + Scalar.tolerance / l.length

instance (l : Line α) (t : α) : Decidable (l.onSegment t) :=
  inferInstanceAs (Decidable (_ ∧ _))

-- The point where two segments cross. A crossing this close to an end is that end; the ends of
-- the first segment are tried first.
def meetSegment (l k : Line α) : Option (Point α) :=
  match l.crossing k with
  | none => none
  | some (t, u) =>
      let p := l.pointAt t
      let snapped := ([l.a, l.b, k.a, k.b].find? fun q => p.near Scalar.tolerance q).getD p
      if l.onSegment t ∧ k.onSegment u then some snapped else none

end Line

end PlaneSketch

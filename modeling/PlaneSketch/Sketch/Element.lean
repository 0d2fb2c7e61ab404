import PlaneSketch.Fact.Basic
import PlaneSketch.Geometry.Placement

namespace PlaneSketch

inductive Axis where
  | horizontal
  | vertical
deriving DecidableEq

namespace Axis

def name : Axis → String
  | horizontal => "horizontal"
  | vertical => "vertical"

def ofName? : String → Option Axis
  | "horizontal" => some horizontal
  | "vertical" => some vertical
  | _ => none

end Axis

-- A part of a sketch: geometry first, then constraints. Every element has a handle and refers to
-- others by theirs.
inductive Element where
  | point (id : Handle) (position : Point Float)
  | line (id a b : Handle)
  -- The ends are at one distance from the center.
  | arc (id a b center : Handle)
  | fixed (id point : Handle) (position : Point Float)
  | axisAligned (id : Handle) (axis : Axis) (a b : Handle)
  -- A dimension that only measures does not constrain.
  | distance (id a b : Handle) (value : Float) (placement : Placement Float) (measureOnly : Bool)
  -- The distance is signed, positive to the left of the line.
  | lineDistance (id point line : Handle) (value : Float) (placement : Placement Float)
      (measureOnly : Bool)
  | pointOnLine (id point line : Handle)
  | pointOnArc (id point arc : Handle)
  -- An element of a kind that nothing here understands, with the name of that kind.
  | foreign (id : Handle) (kindName : String)
deriving DecidableEq

namespace Element

inductive Kind where
  | point
  | line
  | arc
  | fixed
  | axisAligned
  | distance
  | lineDistance
  | pointOnLine
  | pointOnArc
  | foreign
deriving DecidableEq

namespace Kind

def name : Kind → String
  | point => "SketchPoint"
  | line => "SketchLine"
  | arc => "SketchArc"
  | fixed => "ConstraintFixed"
  | axisAligned => "ConstraintAxisAligned"
  | distance => "ConstraintPointPointDistance"
  | lineDistance => "ConstraintPointLineDistance"
  | pointOnLine => "ConstraintPointOnLine"
  | pointOnArc => "ConstraintPointOnArc"
  | foreign => "Foreign"

def all : List Kind :=
  [point, line, arc, fixed, axisAligned, distance, lineDistance, pointOnLine, pointOnArc, foreign]

def ofName? (text : String) : Option Kind := all.find? fun kind => kind.name = text

def isConstraint : Kind → Bool
  | fixed | axisAligned | distance | lineDistance | pointOnLine | pointOnArc => true
  | _ => false

def isDimension : Kind → Bool
  | distance | lineDistance => true
  | _ => false

end Kind

def id : Element → Handle
  | point id .. => id
  | line id .. => id
  | arc id .. => id
  | fixed id .. => id
  | axisAligned id .. => id
  | distance id .. => id
  | lineDistance id .. => id
  | pointOnLine id .. => id
  | pointOnArc id .. => id
  | foreign id .. => id

def kind : Element → Kind
  | point .. => .point
  | line .. => .line
  | arc .. => .arc
  | fixed .. => .fixed
  | axisAligned .. => .axisAligned
  | distance .. => .distance
  | lineDistance .. => .lineDistance
  | pointOnLine .. => .pointOnLine
  | pointOnArc .. => .pointOnArc
  | foreign .. => .foreign

def kindName : Element → String
  | foreign _ name => name
  | e => e.kind.name

-- Equality of elements, up to what counts as equality of numbers. Of elements that nothing here
-- understands it is not known whether they are equal.
def agrees (same : Float → Float → Bool) : Element → Element → Bool
  | point i p, point j q => i == j && same p.x q.x && same p.y q.y
  | line i a b, line j c d => i == j && a == c && b == d
  | arc i a b m, arc j c d n => i == j && a == c && b == d && m == n
  | fixed i a p, fixed j b q => i == j && a == b && same p.x q.x && same p.y q.y
  | axisAligned i x a b, axisAligned j y c d => i == j && x == y && a == c && b == d
  | distance i a b v k m, distance j c d w l n =>
      i == j && a == c && b == d && same v w && same k.t l.t && same k.offset l.offset && m == n
  | lineDistance i a b v k m, lineDistance j c d w l n =>
      i == j && a == c && b == d && same v w && same k.t l.t && same k.offset l.offset && m == n
  | pointOnLine i a b, pointOnLine j c d => i == j && a == c && b == d
  | pointOnArc i a b, pointOnArc j c d => i == j && a == c && b == d
  | _, _ => false

end Element

end PlaneSketch

import PlaneSketch.Geometry.Circle
import PlaneSketch.Handle

namespace PlaneSketch

-- What is known about points, named by their handles.
inductive Fact (α : Type) where
  | fixed (point : Handle) (position : Point α)
  -- The point lies on the infinite line through the two positions.
  | onLine (point : Handle) (a b : Point α)
  | onCircle (point : Handle) (center : Point α) (radius : α)
  | vertical (first second : Handle)
  | horizontal (first second : Handle)
  | distance (first second : Handle) (value : α)
  -- The signed distance of the point to the left of the line from start to stop.
  | lineDistance (point start stop : Handle) (value : α)
  | collinear (points : List Handle)
  | equidistant (center first second : Handle)
  -- A fact that says nothing.
  | bare
deriving DecidableEq

namespace Fact

inductive Kind where
  | fixed
  | onLine
  | onCircle
  | vertical
  | horizontal
  | distance
  | lineDistance
  | collinear
  | equidistant
  | bare
deriving DecidableEq

namespace Kind

def all : List Kind :=
  [fixed, onLine, onCircle, vertical, horizontal, distance, lineDistance, collinear, equidistant,
    bare]

def name : Kind → String
  | fixed => "FixedFact"
  | onLine => "LineFact"
  | onCircle => "CircleFact"
  | vertical => "VerticalFact"
  | horizontal => "HorizontalFact"
  | distance => "DistanceFact"
  | lineDistance => "PointLineDistanceFact"
  | collinear => "CollinearFact"
  | equidistant => "EquidistantFact"
  | bare => "Fact"

def ofName? (text : String) : Option Kind := all.find? fun kind => kind.name = text

end Kind

variable {α : Type}

def kind : Fact α → Kind
  | fixed .. => .fixed
  | onLine .. => .onLine
  | onCircle .. => .onCircle
  | vertical .. => .vertical
  | horizontal .. => .horizontal
  | distance .. => .distance
  | lineDistance .. => .lineDistance
  | collinear .. => .collinear
  | equidistant .. => .equidistant
  | bare => .bare

-- Whether a second fact repeats the first. Positions and numbers agree up to the bound. A pinned
-- position and a measured distance are not compared at all: the first one known for its points
-- is kept and every later one is a repetition.
def sameAs [Scalar α] (bound : α) : Fact α → Fact α → Bool
  | fixed p _, fixed q _ => p == q
  | onLine p a b, onLine q c d => p == q && a.near bound c && b.near bound d
  | onCircle p a r, onCircle q b s => p == q && a.near bound b && Scalar.close bound r s
  | vertical p q, vertical r s => p == r && q == s
  | horizontal p q, horizontal r s => p == r && q == s
  | distance p q _, distance r s _ => p == r && q == s
  | lineDistance p a b _, lineDistance q c d _ => p == q && a == c && b == d
  | collinear ps, collinear qs => ps == qs
  | equidistant c p q, equidistant d r s => c == d && p == r && q == s
  | bare, bare => true
  | _, _ => false

end Fact

end PlaneSketch

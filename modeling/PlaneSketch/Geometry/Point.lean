import PlaneSketch.Scalar

namespace PlaneSketch

structure Point (α : Type) where
  x : α
  y : α
deriving DecidableEq

namespace Point

variable {α : Type} [Scalar α]

def origin : Point α := ⟨0.0, 0.0⟩

instance : Add (Point α) := ⟨fun p q => ⟨p.x + q.x, p.y + q.y⟩⟩

instance : Sub (Point α) := ⟨fun p q => ⟨p.x - q.x, p.y - q.y⟩⟩

def scale (p : Point α) (k : α) : Point α := ⟨p.x * k, p.y * k⟩

def dot (p q : Point α) : α := p.x * q.x + p.y * q.y

def cross (p q : Point α) : α := p.x * q.y - p.y * q.x

def norm (p : Point α) : α := Scalar.hypot p.x p.y

def dist (p q : Point α) : α := Scalar.hypot (p.x - q.x) (p.y - q.y)

-- The vector of length one in the same direction. A vector too short to have a direction becomes
-- the origin, so nothing is divided by almost zero.
def normalize (p : Point α) : Point α :=
  let length := p.norm
  if length < Scalar.tolerance then origin else ⟨p.x / length, p.y / length⟩

def midpoint (p q : Point α) : Point α := ⟨(p.x + q.x) * 0.5, (p.y + q.y) * 0.5⟩

-- A quarter turn to the left.
def rotate90 (p : Point α) : Point α := ⟨-p.y, p.x⟩

-- Two positions count as one when they are closer than the bound.
def near (bound : α) (p q : Point α) : Bool := decide (p.dist q < bound)

end Point

end PlaneSketch

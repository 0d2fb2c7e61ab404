import PlaneSketch.Fact.Basic
import PlaneSketch.Text.Literal

namespace PlaneSketch.Fact

-- The parts of facts by name.
inductive Field where
  | point
  | position
  | a
  | b
  | center
  | radius
  | point1
  | point2
  | distance
  | line1
  | line2
  | points
deriving DecidableEq

namespace Field

def name : Field → String
  | point => "point"
  | position => "position"
  | a => "a"
  | b => "b"
  | center => "center"
  | radius => "radius"
  | point1 => "point1"
  | point2 => "point2"
  | distance => "distance"
  | line1 => "line1"
  | line2 => "line2"
  | points => "points"

end Field

-- What a part of a fact holds.
inductive Part (α : Type) where
  | handle (h : Handle)
  | handles (hs : List Handle)
  | number (x : α)
  | position (p : Point α)

namespace Part

variable {α : Type}

-- Handles agree exactly, numbers and positions up to the bound.
def agrees [Scalar α] (bound : α) : Part α → Part α → Bool
  | handle g, handle h => g == h
  | handles gs, handles hs => gs == hs
  | number x, number y => Scalar.close bound x y
  | position p, position q => p.near bound q
  | _, _ => false

end Part

variable {α : Type}

-- The parts of a fact in order.
def parts : Fact α → List (Field × Part α)
  | fixed p position => [(.point, .handle p), (.position, .position position)]
  | onLine p a b => [(.point, .handle p), (.a, .position a), (.b, .position b)]
  | onCircle p center radius =>
      [(.point, .handle p), (.center, .position center), (.radius, .number radius)]
  | vertical p q => [(.point1, .handle p), (.point2, .handle q)]
  | horizontal p q => [(.point1, .handle p), (.point2, .handle q)]
  | distance p q d => [(.point1, .handle p), (.point2, .handle q), (.distance, .number d)]
  | lineDistance p a b d =>
      [(.point, .handle p), (.line1, .handle a), (.line2, .handle b), (.distance, .number d)]
  | collinear ps => [(.points, .handles ps)]
  | equidistant c p q => [(.center, .handle c), (.point1, .handle p), (.point2, .handle q)]
  | bare => []

def part? (fact : Fact α) (field : Field) : Option (Part α) := fact.parts.lookup field

-- The names of the parts that facts of one kind have.
def Kind.fields : Kind → List Field
  | fixed => [.point, .position]
  | onLine => [.point, .a, .b]
  | onCircle => [.point, .center, .radius]
  | vertical => [.point1, .point2]
  | horizontal => [.point1, .point2]
  | distance => [.point1, .point2, .distance]
  | lineDistance => [.point, .line1, .line2, .distance]
  | collinear => [.points]
  | equidistant => [.center, .point1, .point2]
  | bare => []

def Kind.field? (kind : Kind) (name : Text) : Option Field :=
  kind.fields.find? fun field => Text.ofString field.name = name

-- A partial description of facts of one kind: some parts are asked for, each with a value or with
-- none, which every value meets.
structure Pattern (α : Type) where
  kind : Kind
  wanted : List (Field × Option (Part α))

namespace Pattern

-- Every fact is a fact, so the bare kind admits all of them.
def admits (kind : Kind) (fact : Fact α) : Bool := kind == .bare || fact.kind == kind

def meets [Scalar α] (bound : α) (fact : Fact α) (wanted : Field × Option (Part α)) : Bool :=
  match wanted.2 with
  | none => true
  | some value =>
      match fact.part? wanted.1 with
      | none => false
      | some part => part.agrees bound value

def accepts [Scalar α] (pattern : Pattern α) (bound : α) (fact : Fact α) : Bool :=
  admits pattern.kind fact && pattern.wanted.all (meets bound fact)

end Pattern

-- The name that stands for the kind itself when a pattern is made.
def kindName : String := "cls"

-- Why names do not make a pattern.
inductive PatternError where
  -- The kind is asked for once more, as if it were a part.
  | kindAgain
  -- The names that facts of the kind do not have, in order of their spelling.
  | unknownFields (kind : Kind) (names : List Text)

def PatternError.message : PatternError → Text
  | kindAgain =>
      Kind.bare.name ++ ".pattern() got multiple values for argument " ++ Text.quoted kindName
  | unknownFields kind names => kind.name ++ " has no field(s) " ++ Text.join ", " names

-- A pattern from names and values; the names must be those of parts.
def Pattern.ofNames (kind : Kind) (wanted : List (Text × Option (Part α))) :
    Except PatternError (Pattern α) :=
  if wanted.any fun w => w.1 = Text.ofString kindName then .error .kindAgain
  else
    match (wanted.map (·.1)).filter fun name => (kind.field? name).isNone with
    | [] => .ok ⟨kind, wanted.filterMap fun w => (kind.field? w.1).map fun field => (field, w.2)⟩
    | unknown => .error (.unknownFields kind (unknown.mergeSort Text.notAfter))

end PlaneSketch.Fact

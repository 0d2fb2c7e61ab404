import PlaneSketch.Geometry.Angle
import PlaneSketch.Geometry.Box
import PlaneSketch.Sketch.Basic

namespace PlaneSketch

-- The share of the visible size within which something counts as under the cursor.
def pickShare : Float := 0.015

-- The first candidate of those no farther than the limit that is nearest. A distance that cannot
-- be compared is neither too far nor farther than another.
def closest (limit : Float) (candidates : List (Handle × Float)) : Option Handle :=
  let nearer (best : Option (Handle × Float)) (candidate : Handle × Float) :
      Option (Handle × Float) :=
    if limit < candidate.2 then best
    else
      match best with
      | none => some candidate
      | some (_, gap) => if candidate.2 < gap then some candidate else best
  (candidates.foldl nearer none).map (·.1)

namespace Sketch

-- The position of the last point with this handle.
def positionAt (s : Sketch) (id : Handle) : Except LookupError (Point Float) :=
  match (s.points.filter fun p => p.1 == id).getLast? with
  | none => .error (.noPosition id)
  | some (_, position) => .ok position

-- Where the label of a dimension is drawn.
def labelPosition (s : Sketch) (id : Handle) : Except LookupError (Point Float) :=
  match s.get? id with
  | some (.distance _ a b _ placement _) => do
      let a ← s.positionAt a
      let b ← s.positionAt b
      .ok (placement.position a b)
  | some (.lineDistance _ point line _ placement _) => do
      let ends ← s.lineEnds line
      let a ← s.positionAt point
      let start ← s.positionAt ends.1
      let stop ← s.positionAt ends.2
      .ok (placement.position a (Line.project ⟨start, stop⟩ a).point)
  | _ => .error (s.blame id .digits .notADimension)

-- The point nearest to a position, within a limit.
def pointNear (s : Sketch) (near : Point Float) (limit : Float) : Option Handle :=
  closest limit (s.points.map fun p => (p.1, near.dist p.2))

def dimensionGaps (s : Sketch) (near : Point Float) :
    Except LookupError (List (Handle × Float)) :=
  (s.ofKinds Element.Kind.isDimension).mapM fun e => do
    let position ← s.labelPosition e.id
    .ok (e.id, near.dist position)

-- The distance to a line or an arc; other elements have none.
def curveGap (s : Sketch) (near : Point Float) :
    Element → Except LookupError (List (Handle × Float))
  | .line id a b => do
      let a ← s.positionAt a
      let b ← s.positionAt b
      .ok [(id, Line.segmentDist ⟨a, b⟩ near)]
  | .arc id a b center => do
      let a ← s.positionAt a
      let b ← s.positionAt b
      let center ← s.positionAt center
      .ok [(id, Arc.dist ⟨a, b, center⟩ near)]
  | _ => .ok []

def curveGaps (s : Sketch) (near : Point Float) : Except LookupError (List (Handle × Float)) := do
  let gaps ← s.elements.mapM (s.curveGap near)
  .ok gaps.flatten

-- The element under the cursor: labels of dimensions come before points, points before lines and
-- arcs.
def elementNear (s : Sketch) (near : Point Float) (viewSize : Float) :
    Except LookupError (Option Handle) := do
  let limit := viewSize * pickShare
  let dimensions ← s.dimensionGaps near
  match closest limit dimensions with
  | some id => .ok (some id)
  | none =>
      match s.pointNear near limit with
      | some id => .ok (some id)
      | none => do
          let curves ← s.curveGaps near
          .ok (closest limit curves)

def pointsInBox (s : Sketch) (box : Box Float) : List Handle :=
  (s.points.filter fun p => box.contains 0.0 p.2).map (·.1)

-- Whether both ends of a line lie in the box. The second end matters only if the first does.
def lineInBox (s : Sketch) (box : Box Float) (a b : Handle) : Except LookupError Bool := do
  let a ← s.positionAt a
  if box.contains 0.0 a then do
    let b ← s.positionAt b
    .ok (box.contains 0.0 b)
  else .ok false

-- Whether a segment crosses one of the sides of the box.
def crossesBox (box : Box Float) (segment : Line Float) : Bool :=
  box.sides.any fun side =>
    match segment.meetLine side with
    | none => false
    | some p =>
        !decide (Scalar.tolerance < segment.segmentDist p) && box.contains Scalar.tolerance p

-- Whether a line has an end in the box or crosses it.
def lineTouchesBox (s : Sketch) (box : Box Float) (a b : Handle) : Except LookupError Bool := do
  let a ← s.positionAt a
  let b ← s.positionAt b
  .ok (box.contains 0.0 a || box.contains 0.0 b || crossesBox box ⟨a, b⟩)

-- The points in the box, then the lines that pass the test.
def selectInBox (s : Sketch) (box : Box Float)
    (test : Handle → Handle → Except LookupError Bool) : Except LookupError (List Handle) := do
  let lines ← s.lines.filterM fun line => test line.2.1 line.2.2
  .ok (s.pointsInBox box ++ lines.map (·.1))

-- The points and lines that lie in the box.
def fullyInBox (s : Sketch) (box : Box Float) : Except LookupError (List Handle) :=
  s.selectInBox box (s.lineInBox box)

-- The points in the box and the lines that have some of their length in it.
def partlyInBox (s : Sketch) (box : Box Float) : Except LookupError (List Handle) :=
  s.selectInBox box (s.lineTouchesBox box)

end Sketch

end PlaneSketch
